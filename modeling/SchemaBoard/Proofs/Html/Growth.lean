import SchemaBoard.Html.Clean

/-!
# Trees that grow at one place

New nodes come at the end of the array. While an element is open, all that is read goes under it, so
what it holds in the end is what lies between it and the end of the array: no node there has a child
elsewhere, and no node elsewhere changes but the one that the whole hangs under. What the nodes of
such a region show depends on these nodes alone. Main statements: `Grows.trans`, `Grows.element`.
-/
namespace SchemaBoard.Html.Dom

variable {d g : Dom} {p i lo hi : Nat} {m : Matter}

/-! ## A node that is hung under another -/

/-- Make a new node the last child of another. -/
def hang (d : Dom) (p : Nat) (m : Matter) : Dom := (d.add m).append p d.nodes.size

theorem size_hang (d : Dom) (p : Nat) (m : Matter) :
    (d.hang p m).nodes.size = d.nodes.size + 1 := by
  simp [hang, append, setParent, mapChildren, add]

theorem node_hang_of_ne (hi : i < d.nodes.size) (hp : i ≠ p) :
    (d.hang p m).nodes[i]? = d.nodes[i]? := by
  simp [hang, append, setParent, mapChildren, add, Array.getElem?_modify, Array.getElem?_push,
    Ne.symm hp, Nat.ne_of_gt hi, Nat.ne_of_lt hi]

theorem node_hang_parent (hp : p < d.nodes.size) :
    (d.hang p m).nodes[p]? = d.nodes[p]?.map fun n =>
      { n with children := n.children.push d.nodes.size } := by
  simp [hang, append, setParent, mapChildren, add, Array.getElem?_modify, Array.getElem?_push,
    Nat.ne_of_gt hp, Nat.ne_of_lt hp]

theorem node_hang_new (hp : p < d.nodes.size) :
    (d.hang p m).nodes[d.nodes.size]? = some { matter := m, parent := some p } := by
  simp only [hang, append, setParent, mapChildren, add, Array.getElem?_modify, Array.getElem?_push]
  simp [Nat.ne_of_lt hp]

/-! ## Regions -/

/-- Children of nodes from `lo` up to `hi` are such nodes as well. -/
def Closed (d : Dom) (lo hi : Nat) : Prop :=
  ∀ i n, lo ≤ i → i < hi → d.nodes[i]? = some n → ∀ c ∈ n.children, lo ≤ c ∧ c < hi

/-- What the nodes of a region show depends on these nodes alone. -/
theorem outline_congr (closed : d.Closed lo hi)
    (same : ∀ i, lo ≤ i → i < hi → g.nodes[i]? = d.nodes[i]?) (depth : Nat) {i : Nat}
    (hlo : lo ≤ i) (hhi : i < hi) : g.outline depth i = d.outline depth i := by
  induction depth generalizing i with
  | zero => rfl
  | succ depth ih =>
    rw [outline, outline, same i hlo hhi]
    cases hn : d.nodes[i]? with
    | none => rfl
    | some n =>
      have below (c : Nat) (hc : c ∈ n.children.toList) : g.outline depth c = d.outline depth c := by
        obtain ⟨hl, hh⟩ := closed i n hlo hhi hn c (by simpa using hc)
        exact ih hl hh
      have whole : n.children.toList.flatMap (g.outline depth)
          = n.children.toList.flatMap (d.outline depth) := by
        rw [List.flatMap_def, List.flatMap_def, List.map_congr_left below]
      simp only [whole]

/-- The nodes from `lo` up to `hi` show this markup, under these roots among them. -/
structure Holds (d : Dom) (lo hi : Nat) (roots : List Nat) (ms : List Markup) : Prop where
  le : lo ≤ hi
  within : ∀ i ∈ roots, lo ≤ i ∧ i < hi
  closed : d.Closed lo hi
  /-- No chain of children is longer than there are nodes. -/
  shown : ∀ depth, hi - lo ≤ depth → roots.flatMap (d.outline depth) = ms

namespace Holds

variable {mid : Nat} {roots others : List Nat} {ms ns : List Markup}

theorem nil (d : Dom) (lo : Nat) : d.Holds lo lo [] [] where
  le := Nat.le_refl lo
  within := by simp
  closed i n hlo hhi := by omega
  shown depth _ := rfl

theorem frame (h : d.Holds lo hi roots ms)
    (same : ∀ i, lo ≤ i → i < hi → g.nodes[i]? = d.nodes[i]?) : g.Holds lo hi roots ms where
  le := h.le
  within := h.within
  closed i n hlo hhi hn := h.closed i n hlo hhi (same i hlo hhi ▸ hn)
  shown depth hd := by
    rw [← h.shown depth hd, List.flatMap_def, List.flatMap_def]
    congr 1
    refine List.map_congr_left fun i hi => ?_
    exact outline_congr h.closed same depth (h.within i hi).1 (h.within i hi).2

theorem append (h : d.Holds lo mid roots ms) (k : d.Holds mid hi others ns) :
    d.Holds lo hi (roots ++ others) (ms ++ ns) where
  le := Nat.le_trans h.le k.le
  within i hi := by
    have := h.le
    have := k.le
    rcases List.mem_append.1 hi with hi | hi
    · have := h.within i hi
      omega
    · have := k.within i hi
      omega
  closed i n hlo hhi hn c hc := by
    have := h.le
    have := k.le
    by_cases hm : i < mid
    · have := h.closed i n hlo hm hn c hc
      omega
    · have := k.closed i n (by omega) hhi hn c hc
      omega
  shown depth hd := by
    have := h.le
    have := k.le
    rw [List.flatMap_append, h.shown depth (by omega), k.shown depth (by omega)]

/-- A text shows itself. -/
theorem text {chars : List Char} {parent : Option Nat}
    (hn : d.nodes[i]? = some { matter := .text chars, parent := parent }) :
    d.Holds i (i + 1) [i] [.text chars] where
  le := Nat.le_succ i
  within := by simp
  closed j n hlo hhi hj c hc := by
    obtain rfl : j = i := by omega
    obtain rfl := Option.some.inj (hn.symm.trans hj)
    simp at hc
  shown depth hd := by
    cases depth with
    | zero => omega
    | succ depth => simp [Dom.outline, hn]

/-- An element in front of what it holds. -/
theorem element {e : Element} {parent : Option Nat}
    (hn : d.nodes[i]? = some { matter := .element e, parent := parent, children := roots.toArray })
    (h : d.Holds (i + 1) hi roots ms) : d.Holds i hi [i] (e.keep ms) where
  le := Nat.le_of_succ_le h.le
  within j hj := by
    have := h.le
    obtain rfl := List.mem_singleton.1 hj
    omega
  closed j n hlo hhi hj c hc := by
    by_cases hji : j = i
    · subst hji
      obtain rfl := Option.some.inj (hn.symm.trans hj)
      have := h.within c (by simpa using hc)
      omega
    · have := h.closed j n (by omega) hhi hj c hc
      omega
  shown depth hd := by
    have := h.le
    cases depth with
    | zero => omega
    | succ depth => simp [Dom.outline, hn, h.shown depth (by omega)]

end Holds

/-! ## Growth -/

/-- From `d` to `g` this markup came under the node `p`, and nothing else happened. -/
structure Grows (d : Dom) (p : Nat) (g : Dom) (ms : List Markup) : Prop where
  le : d.nodes.size ≤ g.nodes.size
  others : ∀ i, i < d.nodes.size → i ≠ p → g.nodes[i]? = d.nodes[i]?
  held : ∃ roots : List Nat, (g.nodes[p]? = d.nodes[p]?.map fun n =>
      { n with children := n.children ++ roots.toArray }) ∧
    g.Holds d.nodes.size g.nodes.size roots ms

namespace Grows

variable {f : Dom} {ms ns : List Markup}

theorem refl (d : Dom) (p : Nat) : d.Grows p d [] where
  le := Nat.le_refl _
  others _ _ _ := rfl
  held := ⟨[], by simp, .nil d _⟩

theorem trans (hp : p < d.nodes.size) (h : d.Grows p f ms) (k : f.Grows p g ns) :
    d.Grows p g (ms ++ ns) where
  le := Nat.le_trans h.le k.le
  others i hi hne := (k.others i (Nat.lt_of_lt_of_le hi h.le) hne).trans (h.others i hi hne)
  held := by
    obtain ⟨roots, hr, hold⟩ := h.held
    obtain ⟨roots', hr', hold'⟩ := k.held
    refine ⟨roots ++ roots', ?_, (hold.frame fun i hlo hhi => ?_).append hold'⟩
    · rw [hr', hr, Option.map_map]
      congr 1
      funext n
      simp
    · exact k.others i hhi (by omega)

theorem text (hp : p < d.nodes.size) (chars : List Char) :
    d.Grows p (d.hang p (.text chars)) [.text chars] where
  le := by simp [size_hang]
  others i hi hne := node_hang_of_ne hi hne
  held := by
    refine ⟨[d.nodes.size], ?_, ?_⟩
    · rw [node_hang_parent hp]
      simp
    · rw [size_hang]
      exact .text (node_hang_new hp)

/-- What grows under a new element is what the element holds. -/
theorem element (hp : p < d.nodes.size) {e : Element}
    (h : (d.hang p (.element e)).Grows d.nodes.size g ms) : d.Grows p g (e.keep ms) where
  le := by
    have := h.le
    rw [size_hang] at this
    omega
  others i hi hne := by
    rw [h.others i (by rw [size_hang]; omega) (by omega)]
    exact node_hang_of_ne hi hne
  held := by
    obtain ⟨roots, hr, hold⟩ := h.held
    refine ⟨[d.nodes.size], ?_, ?_⟩
    · rw [h.others p (by rw [size_hang]; omega) (by omega), node_hang_parent hp]
      simp
    · rw [size_hang] at hold
      have node : g.nodes[d.nodes.size]? = some
          { matter := .element e, parent := some p, children := roots.toArray } := by
        rw [hr, node_hang_new hp]
        simp
      exact .element node hold

end Grows

/-- What grew under the root of an empty tree is what the tree shows. -/
theorem markup_of_grows {root : Node} {ms : List Markup} (bare : root.children = #[])
    (h : Grows ⟨#[root]⟩ 0 g ms) : g.markup = ms := by
  obtain ⟨roots, hr, hold⟩ := h.held
  have hroot : g.nodes[0]? = some { root with children := roots.toArray } := by
    simpa [bare] using hr
  simp only [markup, hroot]
  exact hold.shown _ (Nat.sub_le _ _)

end SchemaBoard.Html.Dom
