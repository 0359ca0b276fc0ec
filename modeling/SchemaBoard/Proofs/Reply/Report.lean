import Mathlib.Data.List.Sort
import SchemaBoard.Proofs.Reply.Coverage
import SchemaBoard.Proofs.Reply.Keywords
import SchemaBoard.Proofs.Reply.Pointer

/-!
# Reports of violations

A report tells of every keyword of a document that is violated at any depth of a value, and of
nothing else, from the outside in: first what a value violates itself, then its members in the order
of the document or its items by index. So there is one report for a value. Main statement:
`validate_iff_isReport`.
-/
namespace SchemaBoard.Reply

open Json

/-! ## Order of a report -/

/-- The names of an object's members, in their order. -/
def memberNames : Value → List String
  | .object ms => ms.map Prod.fst
  | _ => []

/-- The texts among the items of a list. -/
def textItems : Value → List String
  | .array vs => vs.flatMap fun | .string s => [s] | _ => []
  | _ => []

/-- Where the document that speaks of a value itself speaks of a breach: at a keyword, and for a
name that is missing at its place in the list. -/
def Breach.site (d : Value) : Breach → List Nat
  | .type _ _ => [(memberNames d).idxOf "type"]
  | .missing name =>
    [(memberNames d).idxOf "required", (textItems ((d.member? "required").getD .null)).idxOf name]
  | .minimum _ => [(memberNames d).idxOf "minimum"]

/-- The place of a segment among all those that lead into a value. -/
def position (d : Value) : Segment → Nat
  | .member name => (memberNames ((d.member? "properties").getD .null)).idxOf name
  | .item i => i

/-- The rank of a breach in depth-first order. Ranks are compared as words are: by the first number
in which they differ. Zero stands for the value itself, so its breaches come before those inside. -/
def rank (d : Value) : Path → Breach → List Nat
  | [], b => 0 :: b.site d
  | s :: p, b => (position d s + 1) :: rank ((part? d s).getD .null) p b

def Violation.rank (d : Value) (x : Violation) : List Nat := Reply.rank d x.path x.breach

def Finding.rank (d : Value) (f : Finding) : List Nat :=
  match f.objection with
  | .breach b => Reply.rank d f.path b
  | .mismatch _ => []

/-- All that a value violates of a document, in order, each found by its place. -/
structure IsReport (d v : Value) (fs : List Finding) : Prop where
  exact : ∀ f, f ∈ fs ↔ ∃ b w, f.objection = .breach b ∧ Offends d v f.path b w
  ordered : fs.Pairwise fun f g => f.rank d < g.rank d
  placed : ∀ f ∈ fs, ∀ b w, f.objection = .breach b → Offends d v f.path b w →
    Pointer.resolve f.place v = some w

theorem IsReport.unique {d v : Value} {fs gs : List Finding} (hf : IsReport d v fs)
    (hg : IsReport d v gs) : fs = gs := by
  have irrefl : Std.Irrefl fun f g : Finding => f.rank d < g.rank d := ⟨fun f => lt_irrefl _⟩
  have antisymm : Std.Antisymm fun f g : Finding => f.rank d < g.rank d :=
    ⟨fun f g h h' => absurd h' (lt_asymm h)⟩
  refine hf.ordered.eq_of_mem_iff hg.ordered ?_
  intro f
  rw [hf.exact, hg.exact]

/-! ## Children -/

/-- A value inside another, with the segment that leads to it and the shape that is asked of it. -/
structure Child where
  segment : Segment
  shape : Shape
  value : Value

/-- The values one segment inside another that a shape speaks of, in its order. -/
def Shape.children : Shape → Value → List Child
  | .list item, .array vs => vs.zipIdx.map fun (w, i) => ⟨.item i, item, w⟩
  | .record _ properties, .object ms =>
    properties.toList.filterMap fun (name, shape) => (ms.lookup name).map (⟨.member name, shape, ·⟩)
  | _, _ => []

theorem mem_children_list {item : Shape} {vs : List Value} {c : Child} :
    c ∈ (Shape.list item).children (.array vs) ↔
      ∃ i w, vs[i]? = some w ∧ ⟨.item i, item, w⟩ = c := by
  simp only [Shape.children, List.mem_map, Prod.exists, List.mem_zipIdx_iff_getElem?]
  exact exists_comm

theorem mem_children_record {required : List String} {properties : Properties}
    {ms : List (String × Value)} {c : Child} :
    c ∈ (Shape.record required properties).children (.object ms) ↔
      ∃ name shape w, (name, shape) ∈ properties.toList ∧ ms.lookup name = some w ∧
        ⟨.member name, shape, w⟩ = c := by
  simp [Shape.children]

theorem shape_of_mem_children {shape : Shape} {v : Value} {c : Child} (h : c ∈ shape.children v) :
    shape = .list c.shape ∨
      ∃ required properties name, shape = .record required properties ∧
        (name, c.shape) ∈ properties.toList := by
  cases shape with
  | list item =>
    cases v with
    | array vs =>
      obtain ⟨i, w, -, rfl⟩ := mem_children_list.1 h
      exact .inl rfl
    | _ => cases h
  | record required properties =>
    cases v with
    | object ms =>
      obtain ⟨name, shape, w, hs, -, rfl⟩ := mem_children_record.1 h
      exact .inr ⟨required, properties, name, rfl, hs⟩
    | _ => cases h
  | _ => cases h

mutual

/-- Induction over a shape: from the shapes of the children of any value. -/
theorem Shape.children_induction {motive : Shape → Prop}
    (step : ∀ shape : Shape, (∀ v, ∀ c ∈ shape.children v, motive c.shape) → motive shape) :
    (shape : Shape) → motive shape
  | .text => step _ fun _ _ h => by cases h
  | .flag => step _ fun _ _ h => by cases h
  | .count => step _ fun _ _ h => by cases h
  | .list item => step _ fun v c h => by
    rcases shape_of_mem_children h with e | ⟨_, _, _, e, -⟩
    · rw [← Shape.list.inj e]
      exact Shape.children_induction step item
    · cases e
  | .record required properties => step _ fun v c h => by
    rcases shape_of_mem_children h with e | ⟨_, _, name, e, hs⟩
    · cases e
    · obtain ⟨-, rfl⟩ := Shape.record.inj e
      exact Properties.children_induction step properties (name, c.shape) hs

theorem Properties.children_induction {motive : Shape → Prop}
    (step : ∀ shape : Shape, (∀ v, ∀ c ∈ shape.children v, motive c.shape) → motive shape) :
    (properties : Properties) → ∀ x ∈ properties.toList, motive x.2
  | .nil, x, h => absurd h List.not_mem_nil
  | .cons name shape rest, x, h => by
    rcases List.mem_cons.1 h with rfl | h
    · exact Shape.children_induction step shape
    · exact Properties.children_induction step rest x h

end

mutual

/-- No name comes twice, neither among those that are asked for nor among the properties. -/
def Shape.Proper : Shape → Prop
  | .list item => item.Proper
  | .record required properties =>
    required.Nodup ∧ (properties.toList.map Prod.fst).Nodup ∧ properties.Proper
  | _ => True

def Properties.Proper : Properties → Prop
  | .nil => True
  | .cons _ shape rest => shape.Proper ∧ rest.Proper

end

theorem Properties.Proper.shape {properties : Properties} (h : properties.Proper) :
    ∀ x ∈ properties.toList, x.2.Proper := by
  intro x hx
  induction properties using Properties.rec (motive_1 := fun _ => True) with
  | nil => cases hx
  | cons name shape rest _ ih =>
    rcases List.mem_cons.1 hx with rfl | hx
    · exact h.1
    · exact ih h.2 hx
  | _ => trivial

theorem Shape.Proper.child {shape : Shape} (h : shape.Proper) {v : Value} {c : Child}
    (hc : c ∈ shape.children v) : c.shape.Proper := by
  rcases shape_of_mem_children hc with e | ⟨required, properties, name, e, hs⟩
  · rw [e] at h
    exact h
  · rw [e] at h
    exact h.2.2.shape _ hs

/-! ## Documents and children -/

theorem documents_eq : (properties : Properties) →
    properties.documents = properties.toList.map fun x => (x.1, x.2.document)
  | .nil => rfl
  | .cons name shape rest => by
    rw [Properties.documents, Properties.toList, List.map_cons, documents_eq rest]

theorem lookup_documents {properties : Properties}
    (h : (properties.toList.map Prod.fst).Nodup) {name : String} {part : Value} :
    properties.documents.lookup name = some part ↔
      ∃ shape, (name, shape) ∈ properties.toList ∧ shape.document = part := by
  rw [documents_eq]
  constructor
  · intro hl
    obtain ⟨⟨n, shape⟩, hm, e⟩ := List.mem_map.1 (Keyed.mem_of_lookup hl)
    obtain ⟨rfl, rfl⟩ := Prod.mk.inj e
    exact ⟨shape, hm, rfl⟩
  · rintro ⟨shape, hm, rfl⟩
    apply Keyed.lookup_of_mem
    · simpa [Function.comp_def] using h
    · exact List.mem_map.2 ⟨_, hm, rfl⟩

/-- The document of a shape speaks of its children, each by the document of what is asked of it, and
of no other value one segment inside. -/
theorem part?_document_iff {shape : Shape} (h : shape.Proper) {v part u : Value} {s : Segment} :
    part? shape.document s = some part ∧ valueAt? [s] v = some u ↔
      ∃ c ∈ shape.children v, c.segment = s ∧ c.shape.document = part ∧ c.value = u := by
  constructor
  · rintro ⟨hd, hv⟩
    cases s with
    | member name =>
      obtain ⟨_, hp, hl⟩ := Option.bind_eq_some_iff.1 hd
      obtain ⟨required, properties, rfl, rfl⟩ := member?_properties.1 hp
      obtain ⟨shape, hm, rfl⟩ := (lookup_documents h.2.1).1 hl
      cases v with
      | object ms =>
        have present : ms.lookup name = some u := by simpa [valueAt?, Value.member?] using hv
        exact ⟨⟨.member name, shape, u⟩, mem_children_record.2 ⟨name, shape, u, hm, present, rfl⟩,
          rfl, rfl, rfl⟩
      | _ => cases hv
    | item i =>
      obtain ⟨item, rfl, rfl⟩ := member?_items.1 hd
      cases v with
      | array vs =>
        have present : vs[i]? = some u := by simpa [valueAt?] using hv
        exact ⟨⟨.item i, item, u⟩, mem_children_list.2 ⟨i, u, present, rfl⟩, rfl, rfl, rfl⟩
      | _ => cases hv
  · rintro ⟨c, hc, rfl, rfl, rfl⟩
    cases shape with
    | list item =>
      cases v with
      | array vs =>
        obtain ⟨i, w, present, rfl⟩ := mem_children_list.1 hc
        exact ⟨member?_items.2 ⟨item, rfl, rfl⟩, by simp [valueAt?, present]⟩
      | _ => cases hc
    | record required properties =>
      cases v with
      | object ms =>
        obtain ⟨name, shape, w, hs, present, rfl⟩ := mem_children_record.1 hc
        have spoken : properties.documents.lookup name = some shape.document :=
          (lookup_documents h.2.1).2 ⟨shape, hs, rfl⟩
        exact ⟨by rwa [part?, properties_record], by simp [valueAt?, Value.member?, present]⟩
      | _ => cases hc
    | _ => cases hc

/-! ## What is told -/

/-- A violation inside a value, seen from outside of it. -/
def Violation.under (place : Path) (x : Violation) : Violation := ⟨place ++ x.path, x.breach⟩

theorem ownViolations_append (shape : Shape) (place p : Path) (v : Value) :
    shape.ownViolations (place ++ p) v = (shape.ownViolations p v).map (Violation.under place) := by
  have typed : (if shape.hasType v then [] else [⟨place ++ p, .type v shape.typeName⟩]) =
      (if shape.hasType v then [] else [⟨p, .type v shape.typeName⟩]).map
        (Violation.under place) := by
    cases shape.hasType v <;> rfl
  rw [Shape.ownViolations.eq_def, Shape.ownViolations.eq_def _ p]
  simp only
  split
  · rw [List.map_append, ← typed]
    congr 1
    split <;> rfl
  · rw [List.map_append, ← typed, List.map_map]
    rfl
  · exact typed

theorem collectItems_eq (collect : Nat → Value → List Violation) (n : Nat) (vs : List Value) :
    collectItems collect n vs = (vs.zipIdx n).flatMap fun (w, i) => collect i w := by
  induction vs generalizing n with
  | nil => rfl
  | cons v vs ih => rw [collectItems, ih, List.zipIdx_cons, List.flatMap_cons]

mutual

theorem violations_append : (shape : Shape) → (place p : Path) → (v : Value) →
    shape.violations (place ++ p) v = (shape.violations p v).map (Violation.under place)
  | .list item, place, p, v => by
    rw [Shape.violations.eq_def, Shape.violations.eq_def _ p, ownViolations_append, List.map_append]
    congr 1
    cases v with
    | array vs =>
      simp only [collectItems_eq, List.map_flatMap, List.append_assoc, violations_append item place]
    | _ => rfl
  | .record required properties, place, p, v => by
    rw [Shape.violations.eq_def, Shape.violations.eq_def _ p, ownViolations_append, List.map_append]
    congr 1
    cases v with
    | object ms => exact properties_violations_append properties place p ms
    | _ => rfl
  | .text, place, p, v | .flag, place, p, v | .count, place, p, v => by
    rw [Shape.violations.eq_def, Shape.violations.eq_def _ p, ownViolations_append, List.map_append]
    rfl

theorem properties_violations_append : (properties : Properties) → (place p : Path) →
    (ms : List (String × Value)) →
    properties.violations (place ++ p) ms = (properties.violations p ms).map (Violation.under place)
  | .nil, _, _, _ => rfl
  | .cons name shape rest, place, p, ms => by
    rw [Properties.violations, Properties.violations, List.map_append,
      properties_violations_append rest place p ms]
    congr 1
    cases ms.lookup name with
    | none => rfl
    | some v => simp only [List.append_assoc, violations_append shape place]

end

def Child.violations (c : Child) : List Violation :=
  (c.shape.violations [] c.value).map (Violation.under [c.segment])

theorem properties_violations_eq (ms : List (String × Value)) : (properties : Properties) →
    properties.violations [] ms = (properties.toList.filterMap fun (name, shape) =>
      (ms.lookup name).map (⟨.member name, shape, ·⟩)).flatMap Child.violations
  | .nil => rfl
  | .cons name shape rest => by
    rw [Properties.violations, Properties.toList, properties_violations_eq ms rest]
    cases hl : ms.lookup name with
    | none => simp [hl]
    | some v =>
      have head := violations_append shape [.member name] [] v
      simpa [hl, Child.violations] using head

/-- First what a value violates itself, then what its children violate, child by child. -/
theorem violations_eq (shape : Shape) (v : Value) :
    shape.violations [] v =
      shape.ownViolations [] v ++ (shape.children v).flatMap Child.violations := by
  rw [Shape.violations.eq_def]
  congr 1
  cases shape with
  | list item =>
    cases v with
    | array vs =>
      simp only [Shape.children, List.flatMap_map, collectItems_eq, Child.violations]
      simp only [← violations_append, List.append_nil, List.nil_append]
    | _ => rfl
  | record required properties =>
    cases v with
    | object ms => exact properties_violations_eq ms properties
    | _ => rfl
  | _ => rfl

/-- A shape is violated where a keyword of its document is. -/
theorem mem_violations_iff {shape : Shape} (h : shape.Proper) {v : Value} {x : Violation} :
    x ∈ shape.violations [] v ↔ ∃ w, Offends shape.document v x.path x.breach w := by
  induction shape using Shape.children_induction generalizing v x with
  | step shape ih =>
    obtain ⟨p, b⟩ := x
    rw [violations_eq, List.mem_append, mem_ownViolations_iff, List.mem_flatMap]
    -- what has an empty path is told of the value itself, all else of one of its children
    cases p with
    | nil =>
      have outside : ¬∃ c ∈ shape.children v, ⟨[], b⟩ ∈ c.violations := by
        rintro ⟨c, -, hx⟩
        obtain ⟨y, -, e⟩ := List.mem_map.1 hx
        cases e
      simp [offends_nil_iff, outside]
    | cons s p =>
      simp only [offends_cons_iff]
      constructor
      · rintro (⟨e, -⟩ | ⟨c, hc, hx⟩)
        · cases e
        · obtain ⟨y, hy, e⟩ := List.mem_map.1 hx
          obtain ⟨w, hw⟩ := (ih v c hc (h.child hc)).1 hy
          obtain ⟨rfl, rfl, rfl⟩ : c.segment = s ∧ y.path = p ∧ y.breach = b := by
            simpa [Violation.under, and_assoc] using e
          obtain ⟨hd, hv⟩ := (part?_document_iff h).2 ⟨c, hc, rfl, rfl, rfl⟩
          exact ⟨w, c.shape.document, c.value, hd, hv, hw⟩
      · rintro ⟨w, part, u, hd, hv, hw⟩
        obtain ⟨c, hc, rfl, rfl, rfl⟩ := (part?_document_iff h).1 ⟨hd, hv⟩
        have told : ⟨p, b⟩ ∈ c.shape.violations [] c.value := (ih v c hc (h.child hc)).2 ⟨w, hw⟩
        exact .inr ⟨c, hc, List.mem_map.2 ⟨_, told, rfl⟩⟩

/-! ## In which order -/

theorem pairwise_idxOf {names : List String} (h : names.Nodup) :
    names.Pairwise fun a b => names.idxOf a < names.idxOf b := by
  rw [List.pairwise_iff_getElem]
  intro i j hi hj hij
  rwa [h.idxOf_getElem, h.idxOf_getElem]

theorem textItems_map (names : List String) : textItems (.array (names.map .string)) = names := by
  simp [textItems, List.flatMap_map]

theorem memberNames_documents (properties : Properties) :
    memberNames (.object properties.documents) = properties.toList.map Prod.fst := by
  simp [memberNames, documents_eq, Function.comp_def]

theorem pairwise_ownViolations {shape : Shape} (h : shape.Proper) (v : Value) :
    (shape.ownViolations [] v).Pairwise fun x y =>
      x.rank shape.document < y.rank shape.document := by
  have typed : (if shape.hasType v then [] else [⟨[], .type v shape.typeName⟩]).Pairwise
      fun x y : Violation => x.rank shape.document < y.rank shape.document := by
    cases shape.hasType v <;> simp
  rw [Shape.ownViolations.eq_def]
  simp only
  split
  · rename_i n
    rw [List.pairwise_append]
    refine ⟨typed, by split <;> simp, ?_⟩
    intro x hx y hy
    obtain ⟨-, rfl⟩ : _ ∧ x = ⟨[], .type (.number n) Shape.count.typeName⟩ := by simpa using hx
    obtain ⟨-, rfl⟩ : _ ∧ y = ⟨[], .minimum (.number n)⟩ := by simpa using hy
    simp only [Violation.rank, rank, Breach.site]
    decide
  · rename_i required properties ms
    have listed : ((required.filter fun name => !hasMember name ms).map fun name =>
        ⟨[], .missing name⟩).Pairwise fun x y : Violation =>
          x.rank (Shape.record required properties).document <
            y.rank (Shape.record required properties).document := by
      rw [List.pairwise_map]
      refine ((pairwise_idxOf h.1).filter _).imp ?_
      intro a b hab
      simpa [Violation.rank, rank, Breach.site, required_record, textItems_map,
        List.cons_lt_cons_iff] using hab
    -- an object is of the right type, so nothing stands before the names
    exact listed
  · exact typed

theorem pairwise_children {shape : Shape} (h : shape.Proper) (v : Value) :
    (shape.children v).Pairwise fun c e =>
      position shape.document c.segment < position shape.document e.segment := by
  cases shape with
  | list item =>
    cases v with
    | array vs =>
      have indices : (vs.zipIdx.map Prod.snd).Pairwise (· < ·) := by
        rw [List.zipIdx_map_snd]
        exact List.pairwise_lt_range'
      rw [Shape.children, List.pairwise_map]
      exact List.pairwise_map.1 indices
    | _ => exact .nil
  | record required properties =>
    cases v with
    | object ms =>
      have names := List.pairwise_map.1 (pairwise_idxOf h.2.1)
      rw [Shape.children, List.pairwise_filterMap]
      refine names.imp ?_
      intro x y hxy c hc e he
      obtain ⟨v, -, rfl⟩ := Option.map_eq_some_iff.1 hc
      obtain ⟨w, -, rfl⟩ := Option.map_eq_some_iff.1 he
      simpa only [position, properties_record, Option.getD_some, memberNames_documents] using hxy
    | _ => exact .nil
  | _ => exact .nil

theorem rank_under {shape : Shape} (h : shape.Proper) {v : Value} {c : Child}
    (hc : c ∈ shape.children v) (x : Violation) :
    (x.under [c.segment]).rank shape.document =
      (position shape.document c.segment + 1) :: x.rank c.shape.document := by
  obtain ⟨hd, -⟩ := (part?_document_iff h).2 ⟨c, hc, rfl, rfl, rfl⟩
  rw [Violation.rank, Violation.under, List.singleton_append, rank, hd, Option.getD_some]
  rfl

theorem pairwise_violations {shape : Shape} (h : shape.Proper) (v : Value) :
    (shape.violations [] v).Pairwise fun x y =>
      x.rank shape.document < y.rank shape.document := by
  induction shape using Shape.children_induction generalizing v with
  | step shape ih =>
    rw [violations_eq, List.pairwise_append]
    -- the first numbers decide, but for two violations inside one child
    refine ⟨pairwise_ownViolations h v, List.pairwise_flatMap.2 ⟨?inside, ?across⟩, ?outside⟩
    case inside =>
      intro c hc
      rw [Child.violations, List.pairwise_map]
      refine (ih v c hc (h.child hc) c.value).imp ?_
      intro x y hxy
      simpa only [rank_under h hc, List.cons_lt_cons_self] using hxy
    case across =>
      refine (pairwise_children h v).imp_of_mem ?_
      intro c e hc he hce x hx y hy
      obtain ⟨x, -, rfl⟩ := List.mem_map.1 hx
      obtain ⟨y, -, rfl⟩ := List.mem_map.1 hy
      rw [rank_under h hc, rank_under h he]
      exact List.cons_lt_cons_iff.2 (.inl (Nat.succ_lt_succ hce))
    case outside =>
      intro x hx y hy
      obtain ⟨here, -⟩ := mem_ownViolations_iff.1 hx
      obtain ⟨c, hc, hy⟩ := List.mem_flatMap.1 hy
      obtain ⟨y, -, rfl⟩ := List.mem_map.1 hy
      rw [rank_under h hc, Violation.rank, here, rank]
      exact List.cons_lt_cons_iff.2 (.inl (Nat.succ_pos _))

/-! ## One report -/

theorem isReport_validate {shape : Shape} (h : shape.Proper) (v : Value) :
    IsReport shape.document v (validate shape v) where
  exact f := by
    rw [validate, List.mem_map]
    constructor
    · rintro ⟨x, hx, rfl⟩
      obtain ⟨w, hw⟩ := (mem_violations_iff h).1 hx
      exact ⟨x.breach, w, rfl, hw⟩
    · rintro ⟨b, w, hb, hw⟩
      refine ⟨⟨f.path, b⟩, (mem_violations_iff h).2 ⟨w, hw⟩, ?_⟩
      rw [← hb]
  ordered := List.pairwise_map.2 (pairwise_violations h v)
  placed := by
    rintro f - b w - ⟨e, -, hw, -⟩
    exact Pointer.resolve_pointer hw

theorem validate_eq_iff {shape : Shape} (h : shape.Proper) (v : Value) (fs : List Finding) :
    validate shape v = fs ↔ IsReport shape.document v fs := by
  constructor
  · rintro rfl
    exact isReport_validate h v
  · exact (isReport_validate h v).unique

theorem validate_nil_iff {shape : Shape} (h : shape.Proper) (v : Value) :
    validate shape v = [] ↔ ∀ p b w, ¬Offends shape.document v p b w := by
  rw [List.eq_nil_iff_forall_not_mem]
  simp only [(isReport_validate h v).exact]
  constructor
  · intro none p b w hw
    exact none ⟨p, .breach b⟩ ⟨b, w, rfl, hw⟩
  · rintro none f ⟨b, w, -, hw⟩
    exact none f.path b w hw

theorem proper_analysisShape : analysisShape.Proper := by
  simp [analysisShape, modelShape, fieldShape, spanShape, Shape.Proper, Properties.Proper,
    Properties.toList]

theorem proper_highlightShape : highlightShape.Proper := by
  simp [highlightShape, Shape.Proper, Properties.Proper, Properties.toList]

/-- A reply passes if and only if it violates no keyword of its document at any depth. Else every
violation is told and nothing else: a wrong type, each name that is missing, a number below its
minimum, in the order of a report, each with a JSON Pointer to the value that violates. -/
theorem validate_iff_isReport (v : Value) (fs : List Finding) :
    ((validate analysisShape v = [] ↔ ∀ p b w, ¬Offends analysisShape.document v p b w) ∧
      (validate analysisShape v = fs ↔ IsReport analysisShape.document v fs)) ∧
    (validate highlightShape v = [] ↔ ∀ p b w, ¬Offends highlightShape.document v p b w) ∧
      (validate highlightShape v = fs ↔ IsReport highlightShape.document v fs) :=
  ⟨⟨validate_nil_iff proper_analysisShape v, validate_eq_iff proper_analysisShape v fs⟩,
    validate_nil_iff proper_highlightShape v, validate_eq_iff proper_highlightShape v fs⟩

/-- A reply with several violations at every depth; its span starts at `-1.5`, which is neither
whole nor above zero. -/
def brokenReply : Value :=
  .object [("result", .array [.object [("fields", .array [.string "x", .object
      [("is_index", .string "no"), ("name", .string "n"), ("type", .string "t"),
        ("constraints", .array [.string "c", .null]), ("relation_ship_fields", .array [])]]),
    ("span", .object [("end", .number (.negSucc 0)),
      ("start", .number (.real ⟨true, 0x18000000000000, -52⟩))]),
    ("id", .nat 42)]])]

theorem brokenReply_isReported :
    ∃ fs, IsReport analysisShape.document brokenReply fs ∧
      fs.map (·.place) =
        ["", "/result/0", "/result/0", "/result/0/id", "/result/0/span/start",
          "/result/0/span/start", "/result/0/span/end", "/result/0/fields/0", "/result/0/fields/1",
          "/result/0/fields/1/is_index", "/result/0/fields/1/constraints/1"] := by
  have told := (validate_iff_isReport brokenReply (validate analysisShape brokenReply)).1.2.1 rfl
  exact ⟨_, told, by decide +kernel⟩

end SchemaBoard.Reply
