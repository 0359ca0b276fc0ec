import SchemaBoard.Proofs.Board.Docket

/-!
# Requests under way

What becomes of requests for the code of a model while others for the same model are under way. A
display looks only at what hangs: a request that is under way keeps it neither from handing out
another nor, when it is answered late, from being hung over what a refresh brought. Main statements:
`asked_again_iff`, `settled_after_refresh_iff`.
-/
namespace SchemaBoard
namespace Display
namespace Docket

variable {k e : Docket} {id : String}

/-- The numbers of tickets stay. -/
theorem tickets_change {a : Deal} (c : Change k a e) : k.tickets <+: e.tickets := by
  cases c with
  | reset n o => exact List.prefix_rfl
  | ask _ hd hts => exact List.prefix_append _ _
  | refresh id hd ht => exact List.prefix_append _ _
  | settle hj reply => exact List.prefix_rfl

theorem tickets_run (k : Docket) (deals : List Deal) : k.tickets <+: (k.run deals).tickets := by
  induction deals generalizing k with
  | nil => exact List.prefix_rfl
  | cons a deals ih => exact (tickets_change (change_after k a)).trans (ih (k.after a))

theorem getElem?_tickets_run {j : Nat} {t : Ticket} (h : k.tickets[j]? = some t)
    (deals : List Deal) : (k.run deals).tickets[j]? = some t := by
  obtain ⟨ts, ht⟩ := tickets_run k deals
  rw [← ht, List.getElem?_append_left (List.getElem?_eq_some_iff.1 h).1, h]

/-! ## A second request -/

theorem isSome_beginCode {t : Option Ticket} {d d' : Display}
    (h : d.beginCode id = .ok (t, d')) : t.isSome = true ↔ d.gallery.get? id = none := by
  obtain ⟨⟨m, schema⟩, -, he⟩ := exists_of_map_ok h
  obtain rfl := congrArg Prod.fst he
  cases hg : d.gallery.get? id <;> simp [Gallery.contains, hg]

/-- A model that was not refreshed has nothing hanging as long as no request of the period was
answered with success. -/
theorem Hangs.none_iff (h : Hangs k 0 id) :
    k.display.gallery.get? id = none ↔
      ∀ j code, k.Asked id j → (j, .ok code) ∉ k.replies := by
  have hnone : k.display.gallery.get? id = none ↔ k.answers 0 id = [] := by
    rw [h.last, Option.map_eq_none_iff, List.getLast?_eq_none_iff]
  rw [hnone, answers, List.drop_zero, List.filterMap_eq_nil_iff]
  constructor
  · intro none j code hj hm
    have hc : k.answer? id (j, .ok code) = some code := answer?_eq_some_iff.2 ⟨hj, rfl⟩
    rw [none (j, .ok code) hm] at hc
    cases hc
  · intro unanswered q hq
    rw [Option.eq_none_iff_forall_ne_some]
    intro code hc
    obtain ⟨j, reply⟩ := q
    obtain ⟨hj, rfl⟩ := answer?_eq_some_iff.1 hc
    exact unanswered j code hj hq

/-- Unless the model was refreshed, a request for its code is handed out exactly as long as none of
the period was answered with success. So when it is, every earlier one has failed exactly if every
earlier one has been settled: the display asks again also for what is still under way. To show the
code at once is to ask for it and, if a request is handed out, to settle just that. -/
theorem asked_again_iff {deals : List Deal} {t : Option Ticket} {d : Display}
    (hk : ({} : Docket).run deals = k) (hr : .beginRefresh id ∉ deals)
    (hb : k.display.beginCode id = .ok (t, d)) :
    (t.isSome = true ↔ ∀ j code, k.Asked id j → (j, .ok code) ∉ k.replies) ∧
    (t.isSome = true → ((∀ j, k.Asked id j → ∃ f, (j, .error f) ∈ k.replies) ↔
      ∀ j, k.Asked id j → ∃ reply, (j, reply) ∈ k.replies)) ∧
    ∀ {σ : Type} (s : Remote.Service σ) {w v : σ} {e : Display},
      k.display.showCode s id w = .ok (e, v) →
      (k.after (.beginCode id)).display = e ∧ (k.after (.beginCode id)).tickets = k.tickets ∨
        ∃ reply,
          ((k.after (.beginCode id)).after (.settle k.tickets.length reply)).display = e := by
  have hangs : Hangs k 0 id := hk ▸ (hangs_empty id).run dated_empty hr
  have again := (isSome_beginCode hb).trans hangs.none_iff
  refine ⟨again, fun ht => ⟨fun failed j hj => ?_, fun settled j hj => ?_⟩, fun s => run_showCode⟩
  · obtain ⟨f, hf⟩ := failed j hj
    exact ⟨_, hf⟩
  · obtain ⟨reply, hm⟩ := settled j hj
    cases reply with
    | error f => exact ⟨f, hm⟩
    | ok code => exact absurd hm (again.1 ht j code hj)

/-- One model on show. -/
def oneOnShow : Deal :=
  .hear ⟨analysisTag, 1, .success ⟨"s", [⟨"m", "M", ⟨0, 5⟩, [], ""⟩]⟩⟩

/-- Its code is asked for while it is being asked for. -/
theorem asked_twice :
    (∃ t d, (({} : Docket).run [oneOnShow, .beginCode "m"]).display.beginCode "m" = .ok (some t, d))
    ∧ ¬ ∀ j, (({} : Docket).run [oneOnShow, .beginCode "m"]).Asked "m" j →
      ∃ f, (j, .error f) ∈ (({} : Docket).run [oneOnShow, .beginCode "m"]).replies := by
  have again : (({} : Docket).run [oneOnShow, .beginCode "m"]).display.beginCode "m" =
      .ok (some ⟨"m", ⟨⟨0, 5⟩, "s"⟩, 1⟩, _) := rfl
  have under_way := (asked_again_iff rfl (by simp [oneOnShow]) again).2.1 rfl
  refine ⟨⟨_, _, again⟩, fun failed => ?_⟩
  obtain ⟨reply, hm⟩ := under_way.1 failed 0 ⟨Nat.le_refl _, _, rfl, rfl⟩
  cases hm

/-! ## A request from before a refresh -/

/-- To settle a request from before a refresh leaves what hangs as it is exactly if the display was
reset since, or the reply is a failure or brings what hangs already. What hangs is the last code
that came since the refresh, for a request from before it as well as for a later one. To refresh the
code at once is to begin with it and to settle just that request. -/
theorem settled_after_refresh_iff {before later : List Deal} {u t : Ticket} {d : Display} {j : Nat}
    (hk : ({} : Docket).run before = k) (hr : k.display.beginRefresh id = .ok (u, d))
    (he : (k.after (.beginRefresh id)).run later = e) (hj : k.tickets[j]? = some t)
    (hid : t.id = id) (reply : Except Reply.Failure String) :
    ((e.after (.settle j reply)).display.gallery.get? id = e.display.gallery.get? id ↔
      j < e.since ∨
        ∀ code, reply = .ok code → e.display.gallery.get? id = some (Html.clean code)) ∧
    (.beginRefresh id ∉ later →
      e.display.gallery.get? id
        = (e.answers k.replies.length id).getLast?.map Html.clean) ∧
    ∀ {σ : Type} (s : Remote.Service σ) {w v : σ} {x : Display},
      k.display.refreshCode s id w = .ok (x, v) → ∃ first,
        ((k.after (.beginRefresh id)).after (.settle k.tickets.length first)).display = x := by
  have dated : Dated k := hk ▸ dated_run before
  have refreshed : Dated (k.after (.beginRefresh id)) := dated.change (change_after k _)
  have hej : e.tickets[j]? = some t := by
    subst he
    exact getElem?_tickets_run hj (.beginRefresh id :: later)
  refine ⟨?_, ?_, fun s => run_refreshCode⟩
  · rw [after_settle hej, get?_finishCode (he ▸ refreshed.run later) hej]
    cases ha : e.answer? id (j, reply) with
    | none =>
      have void : j < e.since ∨ ∀ code, reply ≠ .ok code := by
        by_contra valid
        obtain ⟨hs, valid⟩ := not_or.1 valid
        obtain ⟨code, hc⟩ := not_forall_not.1 valid
        rw [answer?_eq_some_iff.2 ⟨⟨Nat.le_of_not_lt hs, t, hej, hid⟩, hc⟩] at ha
        cases ha
      exact iff_of_true rfl (void.imp_right fun hn code hc => absurd hc (hn code))
    | some code =>
      obtain ⟨⟨hs, -⟩, rfl⟩ := answer?_eq_some_iff.1 ha
      constructor
      · intro same
        exact .inr fun c hc => by rw [← Except.ok.inj hc, ← same]; rfl
      · rintro (hlt | brings)
        · exact absurd hs (Nat.not_le_of_lt hlt)
        · rw [brings code rfl]
          rfl
  · intro once
    subst he
    obtain ⟨⟨m, schema⟩, -, hu⟩ := exists_of_map_ok hr
    have fresh : Hangs (k.after (.beginRefresh id)) k.replies.length id := by
      rw [after_beginRefresh hr]
      exact .refresh dated (congrArg (·.2.gallery) hu).symm
    exact (fresh.run refreshed once).last

/-- The code is asked for, and again for a refresh, which fails. -/
def failedRefresh : Docket :=
  (((({} : Docket).run [oneOnShow, .beginCode "m"]).after (.beginRefresh "m")).run
    [.settle 1 (.error (.status "u" 500))])

/-- Then the first request is answered, and its code hangs where nothing did. -/
theorem answered_after_failed_refresh :
    failedRefresh.display.gallery.get? "m" = none ∧
    (failedRefresh.after (.settle 0 (.ok "late"))).display.gallery.get? "m" ≠ none := by
  have refreshed : (({} : Docket).run [oneOnShow, .beginCode "m"]).display.beginRefresh "m" =
      .ok (⟨"m", ⟨⟨0, 5⟩, "s"⟩, 1⟩, _) := rfl
  obtain ⟨same, last, -⟩ := settled_after_refresh_iff rfl refreshed (e := failedRefresh) rfl
    (j := 0) rfl rfl (.ok "late")
  have empty : failedRefresh.display.gallery.get? "m" = none := last (by simp)
  refine ⟨empty, fun still => ?_⟩
  rcases same.1 (still.trans empty.symm) with void | brings
  · exact absurd void (by decide)
  · have hung := brings "late" rfl
    rw [empty] at hung
    cases hung

end Docket
end Display
end SchemaBoard
