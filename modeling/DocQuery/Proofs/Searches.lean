import DocQuery.Regex.Search
import Mathlib.Data.List.Nodup
import Mathlib.Data.List.Perm.Subperm

/-!
# A search finds what there is to be found

A search keeps lists of places of one text, in order of their index (`Places`).  A place of a text is told by its
index, so merging such lists is their union, and a round that makes none of them longer has reached nothing new:

    q ∈ merge ps qs         ↔ q ∈ ps ∨ q ∈ qs                                         (mem_merge)
    q ∈ rounds f n ps       ↔ n steps lead to q from one of ps                        (Takes.rounds)
    q ∈ roundsUpTo f n ps   ↔ up to n steps do                                        (Takes.roundsUpTo)

No step leads backwards, and one that does not lead forwards stays where it is, so a text of n characters is crossed
in n steps at most (`exists_steps_le`).  Hence an expression ends where it matches (`takes_ends`), and

    isMatch r text = true ↔ r matches between two places of the text                  (isMatch_iff)
-/

namespace DocQuery.Regex

open Unicode (CharSet)

/-! ## Places of a text -/

/-- A place of a text: what stands before it and after it is the text. -/
structure Place.Of (text : List Char) (p : Place) : Prop where
  split : p.before.reverse ++ p.after = text
  index_eq : p.index = p.before.length

variable {text : List Char} {p q : Place}

theorem Place.Of.eq (hp : p.Of text) (hq : q.Of text) (h : p.index = q.index) : p = q := by
  obtain ⟨i, before, after⟩ := p
  obtain ⟨j, before', after'⟩ := q
  have hlength : before.reverse.length = before'.reverse.length := by
    rw [List.length_reverse, List.length_reverse]
    exact hp.index_eq.symm.trans (h.trans hq.index_eq)
  obtain ⟨hb, rfl⟩ := List.append_inj (hp.split.trans hq.split.symm) hlength
  obtain rfl := List.reverse_injective hb
  obtain rfl : i = j := h
  rfl

theorem Place.Of.index_le (hp : p.Of text) : p.index ≤ text.length := by
  rw [hp.index_eq, ← hp.split, List.length_append, List.length_reverse]
  exact Nat.le_add_right _ _

theorem Next.of {s : CharSet} (h : Next s p q) (hp : p.Of text) : q.Of text ∧ q.index = p.index + 1 := by
  obtain ⟨hc⟩ := h
  obtain ⟨hs, hi⟩ := hp
  exact ⟨⟨by simpa using hs, congrArg (· + 1) hi⟩, rfl⟩

theorem advance?_eq_some_iff {s : CharSet} : advance? s p = some q ↔ Next s p q := by
  obtain ⟨i, before, after⟩ := p
  constructor
  · intro h
    cases after with
    | nil => cases h
    | cons c rest =>
      by_cases hc : s.contains c = true
      · obtain rfl := Option.some.inj ((if_pos hc).symm.trans h)
        exact .step hc
      · exact nomatch (if_neg hc).symm.trans h
  · rintro ⟨hc⟩
    exact if_pos hc

/-- A match leads from a place of a text to one that is not before it. -/
theorem Matches.of {r : Regex} (h : Matches r p q) (hp : p.Of text) : q.Of text ∧ p.index ≤ q.index := by
  induction h with
  | empty => exact ⟨hp, Nat.le_refl _⟩
  | set h =>
    obtain ⟨hq, hi⟩ := h.of hp
    exact ⟨hq, by omega⟩
  | look h => exact ⟨hp, Nat.le_refl _⟩
  | group _ ih => exact ih hp
  | seq _ _ left right =>
    obtain ⟨hq, hle⟩ := left hp
    exact ⟨(right hq).1, Nat.le_trans hle (right hq).2⟩
  | altLeft _ ih => exact ih hp
  | altRight _ ih => exact ih hp
  | done => exact ⟨hp, Nat.le_refl _⟩
  | needed _ _ first rest =>
    obtain ⟨hq, hle⟩ := first hp
    exact ⟨(rest hq).1, Nat.le_trans hle (rest hq).2⟩
  | «optional» _ _ first rest =>
    obtain ⟨hq, hle⟩ := first hp
    exact ⟨(rest hq).1, Nat.le_trans hle (rest hq).2⟩
  | again _ _ first rest =>
    obtain ⟨hq, hle⟩ := first hp
    exact ⟨(rest hq).1, Nat.le_trans hle (rest hq).2⟩

/-! ## Lists of places -/

/-- Places of one text in order of their index, each once. -/
structure Places (text : List Char) (ps : List Place) : Prop where
  of : ∀ p ∈ ps, p.Of text
  sorted : ps.Pairwise fun p q => p.index < q.index

variable {ps qs : List Place}

theorem Places.nil : Places text [] := ⟨nofun, .nil⟩

theorem Places.nodup (h : Places text ps) : ps.Nodup := by
  refine h.sorted.imp fun hlt => ?_
  rintro rfl
  exact Nat.lt_irrefl _ hlt

/-- As many places as in a list that holds them are the same places. -/
theorem Places.subset_of_length (hp : Places text ps) (h : ps ⊆ qs) (hl : qs.length = ps.length) : qs ⊆ ps :=
  ((List.Nodup.subperm hp.nodup h).perm_of_length_le (Nat.le_of_eq hl)).symm.subset

theorem mem_insertPlace (hp : p.Of text) (hqs : ∀ q ∈ qs, q.Of text) {x : Place} :
    x ∈ merge.insertPlace p qs ↔ x = p ∨ x ∈ qs := by
  induction qs with
  | nil => simp [merge.insertPlace]
  | cons q rest ih =>
    obtain ⟨hq, hrest⟩ := List.forall_mem_cons.1 hqs
    rw [merge.insertPlace]
    split
    · exact List.mem_cons
    · split
      · rename_i hi
        rw [hp.eq hq hi]
        simp
      · rw [List.mem_cons, ih hrest, List.mem_cons]
        exact or_left_comm

theorem Places.insertPlace (hp : p.Of text) (hqs : Places text qs) : Places text (merge.insertPlace p qs) := by
  refine ⟨fun x hx => ?_, ?_⟩
  · rcases (mem_insertPlace hp hqs.of).1 hx with rfl | hx
    · exact hp
    · exact hqs.of x hx
  · induction qs with
    | nil => exact List.pairwise_singleton _ p
    | cons q rest ih =>
      obtain ⟨hof, hsorted⟩ := hqs
      obtain ⟨hq, hrest⟩ := List.forall_mem_cons.1 hof
      obtain ⟨hbefore, hsorted'⟩ := List.pairwise_cons.1 hsorted
      rw [merge.insertPlace]
      split
      · rename_i hlt
        refine List.pairwise_cons.2 ⟨fun x hx => ?_, hsorted⟩
        rcases List.mem_cons.1 hx with rfl | hx
        · exact hlt
        · exact Nat.lt_trans hlt (hbefore x hx)
      · split
        · exact hsorted
        · refine List.pairwise_cons.2 ⟨fun x hx => ?_, ih ⟨hrest, hsorted'⟩⟩
          rcases (mem_insertPlace hp hrest).1 hx with rfl | hx
          · omega
          · exact hbefore x hx

theorem Places.merge (hp : ∀ p ∈ ps, p.Of text) (hq : Places text qs) : Places text (Regex.merge ps qs) := by
  induction ps with
  | nil => exact hq
  | cons p rest ih =>
    obtain ⟨hp, hrest⟩ := List.forall_mem_cons.1 hp
    exact .insertPlace hp (ih hrest)

theorem mem_merge (hp : ∀ p ∈ ps, p.Of text) (hq : Places text qs) {x : Place} :
    x ∈ merge ps qs ↔ x ∈ ps ∨ x ∈ qs := by
  induction ps with
  | nil => simp [merge]
  | cons p rest ih =>
    obtain ⟨hp, hrest⟩ := List.forall_mem_cons.1 hp
    rw [merge, mem_insertPlace hp (Places.merge hrest hq).of, ih hrest, List.mem_cons, or_assoc]

/-! ## Steps -/

/-- A number of steps of a relation. -/
inductive Steps (R : Place → Place → Prop) : Nat → Place → Place → Prop where
  | zero {p : Place} : Steps R 0 p p
  | succ {n : Nat} {p q s : Place} (first : R p q) (rest : Steps R n q s) : Steps R (n + 1) p s

variable {R : Place → Place → Prop} {n : Nat}

theorem Steps.of (hR : ∀ {p q}, R p q → p.Of text → q.Of text ∧ p.index ≤ q.index) (h : Steps R n p q)
    (hp : p.Of text) : q.Of text ∧ p.index ≤ q.index := by
  induction h with
  | zero => exact ⟨hp, Nat.le_refl _⟩
  | succ first _ ih =>
    obtain ⟨hq, hle⟩ := hR first hp
    exact ⟨(ih hq).1, Nat.le_trans hle (ih hq).2⟩

/-- Steps that do not lead forwards can be left out. -/
theorem exists_steps_le (hR : ∀ {p q}, R p q → p.Of text → q.Of text ∧ p.index ≤ q.index) (h : Steps R n p q)
    (hp : p.Of text) : ∃ j, j ≤ q.index - p.index ∧ Steps R j p q := by
  induction h with
  | zero => exact ⟨0, Nat.zero_le _, .zero⟩
  | @succ n p m q first rest ih =>
    obtain ⟨hm, hle⟩ := hR first hp
    obtain ⟨j, hj, hsteps⟩ := ih hm
    have hend := (rest.of hR hm).2
    rcases Nat.lt_or_eq_of_le hle with hlt | heq
    · exact ⟨j + 1, by omega, .succ first hsteps⟩
    · obtain rfl := hp.eq hm heq
      exact ⟨j, hj, hsteps⟩

/-- Places that no step leaves are left by no number of steps. -/
theorem Steps.mem_of_closed (hclosed : ∀ p ∈ ps, ∀ q, R p q → q ∈ ps) (h : Steps R n p q) (hp : p ∈ ps) : q ∈ ps := by
  induction h with
  | zero => exact hp
  | succ first _ ih => exact ih (hclosed _ hp _ first)

/-! ## Rounds -/

/-- A function takes places of a text to those that a step leads to. -/
def Takes (text : List Char) (R : Place → Place → Prop) (f : List Place → List Place) : Prop :=
  ∀ ps, Places text ps → Places text (f ps) ∧ ∀ q, q ∈ f ps ↔ ∃ p ∈ ps, R p q

namespace Takes

variable {f : List Place → List Place}

theorem rounds (h : Takes text R f) (n : Nat) : Takes text (Steps R n) (Regex.rounds f n) := by
  induction n with
  | zero =>
    intro ps hps
    refine ⟨hps, fun q => ⟨fun hq => ⟨q, hq, .zero⟩, ?_⟩⟩
    rintro ⟨p, hp, ⟨⟩⟩
    exact hp
  | succ n ih =>
    intro ps hps
    rw [Regex.rounds]
    split
    · rename_i hempty
      obtain rfl := List.isEmpty_iff.1 hempty
      exact ⟨.nil, by simp⟩
    · obtain ⟨hplaces, hmem⟩ := h ps hps
      obtain ⟨hrounds, hreach⟩ := ih (f ps) hplaces
      refine ⟨hrounds, fun q => (hreach q).trans ⟨?_, ?_⟩⟩
      · rintro ⟨m, hm, hsteps⟩
        obtain ⟨p, hp, hfirst⟩ := (hmem m).1 hm
        exact ⟨p, hp, .succ hfirst hsteps⟩
      · rintro ⟨p, hp, ⟨⟩⟩
        rename_i m hfirst hsteps
        exact ⟨m, (hmem m).2 ⟨p, hp, hfirst⟩, hsteps⟩

theorem roundsUpTo (h : Takes text R f) (n : Nat) :
    Takes text (fun p q => ∃ j ≤ n, Steps R j p q) (Regex.roundsUpTo f n) := by
  induction n with
  | zero =>
    intro ps hps
    refine ⟨hps, fun q => ⟨fun hq => ⟨q, hq, 0, Nat.le_refl 0, .zero⟩, ?_⟩⟩
    rintro ⟨p, hp, j, hj, hsteps⟩
    obtain rfl := Nat.le_zero.1 hj
    cases hsteps
    exact hp
  | succ n ih =>
    intro ps hps
    obtain ⟨hplaces, hmem⟩ := h ps hps
    have hreached := Places.merge hplaces.of hps
    have hunion : ∀ x, x ∈ merge (f ps) ps ↔ x ∈ f ps ∨ x ∈ ps := fun x => mem_merge hplaces.of hps
    rw [Regex.roundsUpTo]
    dsimp only
    split
    · -- Nothing new is reached, so no number of steps leads out of the places.
      rename_i hlength
      have hsubset := hps.subset_of_length (fun x hx => (hunion x).2 (.inr hx)) hlength
      have hclosed : ∀ p ∈ ps, ∀ q, R p q → q ∈ ps := fun p hp q hstep =>
        hsubset ((hunion q).2 (.inl ((hmem q).2 ⟨p, hp, hstep⟩)))
      refine ⟨hps, fun q => ⟨fun hq => ⟨q, hq, 0, Nat.zero_le _, .zero⟩, ?_⟩⟩
      rintro ⟨p, hp, j, -, hsteps⟩
      exact hsteps.mem_of_closed hclosed hp
    · obtain ⟨hrounds, hreach⟩ := ih _ hreached
      refine ⟨hrounds, fun q => (hreach q).trans ⟨?_, ?_⟩⟩
      · rintro ⟨m, hm, j, hj, hsteps⟩
        rcases (hunion m).1 hm with hm | hm
        · obtain ⟨p, hp, hfirst⟩ := (hmem m).1 hm
          exact ⟨p, hp, j + 1, Nat.succ_le_succ hj, .succ hfirst hsteps⟩
        · exact ⟨m, hm, j, Nat.le_succ_of_le hj, hsteps⟩
      · rintro ⟨p, hp, j, hj, hsteps⟩
        cases hsteps with
        | zero => exact ⟨_, (hunion _).2 (.inr hp), 0, Nat.zero_le _, .zero⟩
        | @succ j _ m _ hfirst hsteps =>
          have hm := (hmem m).2 ⟨p, hp, hfirst⟩
          exact ⟨m, (hunion m).2 (.inl hm), j, Nat.le_of_succ_le_succ hj, hsteps⟩

end Takes

/-! ## Expressions -/

/-- A repetition matches its number of steps, and then no more than are allowed. -/
theorem matches_repeated_iff {r : Regex} {min : Nat} {max : Option Nat} : Matches (repeated r min max) p q ↔
    ∃ m, Steps (Matches r) min p m ∧ ∃ j, (∀ k ∈ max, j ≤ k - min) ∧ Steps (Matches r) j m q := by
  constructor
  · intro h
    generalize he : repeated r min max = e at h
    induction h generalizing min max with
    | done =>
      cases he
      exact ⟨_, .zero, 0, fun _ _ => Nat.zero_le _, .zero⟩
    | needed first _ _ rest =>
      cases he
      obtain ⟨m, hmin, j, hj, hrest⟩ := rest rfl
      refine ⟨m, .succ first hmin, j, fun k hk => ?_, hrest⟩
      have hle := hj (k - 1) (Option.mem_map_of_mem _ hk)
      omega
    | «optional» first _ _ rest =>
      cases he
      obtain ⟨m, hmin, j, hj, hrest⟩ := rest rfl
      cases hmin
      refine ⟨_, .zero, j + 1, fun k hk => ?_, .succ first hrest⟩
      cases hk
      exact Nat.succ_le_succ (hj _ rfl)
    | again first _ _ rest =>
      cases he
      obtain ⟨m, hmin, j, -, hrest⟩ := rest rfl
      cases hmin
      exact ⟨_, .zero, j + 1, nofun, .succ first hrest⟩
    | _ => cases he
  · rintro ⟨m, hmin, j, hj, hrest⟩
    induction hmin generalizing max with
    | zero =>
      induction hrest generalizing max with
      | zero => exact .done
      | succ first _ ih =>
        cases max with
        | none => exact .again first (ih nofun)
        | some k =>
          have hk := hj k rfl
          obtain ⟨k, rfl⟩ := Nat.exists_eq_succ_of_ne_zero (n := k) (by omega)
          refine .optional first (ih fun i hi => ?_)
          cases hi
          omega
    | succ first _ ih =>
      refine .needed first (ih (fun k hk => ?_) hrest)
      obtain ⟨i, hi, rfl⟩ := Option.map_eq_some_iff.1 hk
      have hle := hj i hi
      omega

theorem takes_repeated {r : Regex} (h : Takes text (Matches r) (ends text.length r)) (min : Nat) (max : Option Nat) :
    Takes text (Matches (repeated r min max)) (ends text.length (repeated r min max)) := by
  intro ps hps
  obtain ⟨hstart, hmin⟩ := h.rounds min ps hps
  cases max with
  | some k =>
    obtain ⟨hplaces, hrest⟩ := h.roundsUpTo (k - min) _ hstart
    refine ⟨hplaces, fun q => (hrest q).trans ⟨?_, ?_⟩⟩
    · rintro ⟨m, hm, j, hj, hsteps⟩
      obtain ⟨p, hp, hfirst⟩ := (hmin m).1 hm
      exact ⟨p, hp, matches_repeated_iff.2 ⟨m, hfirst, j, fun i hi => by cases hi; exact hj, hsteps⟩⟩
    · rintro ⟨p, hp, hmatch⟩
      obtain ⟨m, hfirst, j, hj, hsteps⟩ := matches_repeated_iff.1 hmatch
      exact ⟨m, (hmin m).2 ⟨p, hp, hfirst⟩, j, hj k rfl, hsteps⟩
  | none =>
    obtain ⟨hplaces, hrest⟩ := h.roundsUpTo (text.length + 1) _ hstart
    refine ⟨hplaces, fun q => (hrest q).trans ⟨?_, ?_⟩⟩
    · rintro ⟨m, hm, j, -, hsteps⟩
      obtain ⟨p, hp, hfirst⟩ := (hmin m).1 hm
      exact ⟨p, hp, matches_repeated_iff.2 ⟨m, hfirst, j, nofun, hsteps⟩⟩
    · rintro ⟨p, hp, hmatch⟩
      obtain ⟨m, hfirst, j, -, hsteps⟩ := matches_repeated_iff.1 hmatch
      have hm := (hmin m).2 ⟨p, hp, hfirst⟩
      have hstep : ∀ {p q}, Matches r p q → p.Of text → q.Of text ∧ p.index ≤ q.index := fun h hp => h.of hp
      obtain ⟨i, hi, hshort⟩ := exists_steps_le hstep hsteps (hstart.of m hm)
      have hle := (hsteps.of hstep (hstart.of m hm)).1.index_le
      exact ⟨m, hm, i, by omega, hshort⟩

/-- An expression ends where it matches. -/
theorem takes_ends (text : List Char) (r : Regex) : Takes text (Matches r) (ends text.length r) := by
  induction r with
  | empty =>
    intro ps hps
    refine ⟨hps, fun q => ⟨fun hq => ⟨q, hq, .empty⟩, ?_⟩⟩
    rintro ⟨p, hp, ⟨⟩⟩
    exact hp
  | set s =>
    intro ps hps
    refine ⟨⟨fun q hq => ?_, ?_⟩, fun q => List.mem_filterMap.trans ⟨?_, ?_⟩⟩
    · obtain ⟨p, hp, hq⟩ := List.mem_filterMap.1 hq
      exact ((advance?_eq_some_iff.1 hq).of (hps.of p hp)).1
    · refine List.pairwise_filterMap.2 (hps.sorted.imp_of_mem fun {p p'} hp hp' hlt q hq q' hq' => ?_)
      have hi := ((advance?_eq_some_iff.1 hq).of (hps.of p hp)).2
      have hi' := ((advance?_eq_some_iff.1 hq').of (hps.of p' hp')).2
      omega
    · rintro ⟨p, hp, hq⟩
      exact ⟨p, hp, .set (advance?_eq_some_iff.1 hq)⟩
    · rintro ⟨p, hp, ⟨⟩⟩
      rename_i hq
      exact ⟨p, hp, advance?_eq_some_iff.2 hq⟩
  | look l =>
    intro ps hps
    refine ⟨⟨fun q hq => hps.of q (List.mem_of_mem_filter hq), hps.sorted.filter _⟩,
      fun q => List.mem_filter.trans ⟨fun h => ⟨q, h.1, .look h.2⟩, ?_⟩⟩
    rintro ⟨p, hp, ⟨⟩⟩
    rename_i hl
    exact ⟨hp, hl⟩
  | group capturing r ih =>
    intro ps hps
    obtain ⟨hplaces, hmem⟩ := ih ps hps
    refine ⟨hplaces, fun q => (hmem q).trans ⟨?_, ?_⟩⟩
    · rintro ⟨p, hp, h⟩
      exact ⟨p, hp, .group h⟩
    · rintro ⟨p, hp, ⟨⟩⟩
      rename_i h
      exact ⟨p, hp, h⟩
  | seq a b left right =>
    intro ps hps
    obtain ⟨hplaces, hmem⟩ := left ps hps
    obtain ⟨hplaces', hmem'⟩ := right _ hplaces
    refine ⟨hplaces', fun q => (hmem' q).trans ⟨?_, ?_⟩⟩
    · rintro ⟨m, hm, h⟩
      obtain ⟨p, hp, h'⟩ := (hmem m).1 hm
      exact ⟨p, hp, .seq h' h⟩
    · rintro ⟨p, hp, ⟨⟩⟩
      rename_i m h' h
      exact ⟨m, (hmem m).2 ⟨p, hp, h'⟩, h⟩
  | alt a b left right =>
    intro ps hps
    obtain ⟨hplaces, hmem⟩ := left ps hps
    obtain ⟨hplaces', hmem'⟩ := right ps hps
    refine ⟨.merge hplaces.of hplaces', fun q => (mem_merge hplaces.of hplaces').trans ?_⟩
    rw [hmem, hmem']
    constructor
    · rintro (⟨p, hp, h⟩ | ⟨p, hp, h⟩)
      · exact ⟨p, hp, .altLeft h⟩
      · exact ⟨p, hp, .altRight h⟩
    · rintro ⟨p, hp, (h | h)⟩
      · exact .inl ⟨p, hp, ‹_›⟩
      · exact .inr ⟨p, hp, ‹_›⟩
  | repeated r min max ih => exact takes_repeated ih min max

/-! ## What stands between two places -/

/-- From one place to another there is a text. -/
structure Reads (p : Place) (u : List Char) (q : Place) : Prop where
  after : p.after = u ++ q.after
  before : q.before = u.reverse ++ p.before
  index : q.index = p.index + u.length

theorem Reads.nil {p q : Place} : Reads p [] q ↔ p = q := by
  obtain ⟨i, before, after⟩ := p
  obtain ⟨j, before', after'⟩ := q
  constructor
  · rintro ⟨ha, hb, hi⟩
    obtain rfl : after = after' := ha
    obtain rfl : before' = before := hb
    obtain rfl : j = i := hi
    rfl
  · rintro ⟨⟩
    exact ⟨rfl, rfl, rfl⟩

theorem Reads.trans {p q r : Place} {u v : List Char} (h : Reads p u q) (k : Reads q v r) : Reads p (u ++ v) r := by
  refine ⟨?_, ?_, ?_⟩
  · rw [h.after, k.after, List.append_assoc]
  · rw [k.before, h.before, List.reverse_append, List.append_assoc]
  · rw [k.index, h.index, List.length_append, Nat.add_assoc]

/-- A place within what is read. -/
theorem Reads.split {p r : Place} {u v : List Char} (h : Reads p (u ++ v) r) : ∃ q, Reads p u q ∧ Reads q v r := by
  refine ⟨⟨p.index + u.length, u.reverse ++ p.before, v ++ r.after⟩, ⟨?_, rfl, rfl⟩, rfl, ?_, ?_⟩
  · rw [h.after, List.append_assoc]
  · rw [h.before, List.reverse_append, List.append_assoc]
  · rw [h.index, List.length_append, Nat.add_assoc]

theorem next_iff {set : CharSet} {p q : Place} :
    Next set p q ↔ ∃ c, set.contains c = true ∧ Reads p [c] q := by
  obtain ⟨i, before, after⟩ := p
  obtain ⟨j, before', after'⟩ := q
  constructor
  · rintro ⟨h⟩
    exact ⟨_, h, rfl, rfl, rfl⟩
  · rintro ⟨c, h, ha, hb, hi⟩
    obtain rfl : after = c :: after' := ha
    obtain rfl : before' = c :: before := hb
    obtain rfl : j = i + 1 := hi
    exact .step h

theorem steps_next_iff {set : CharSet} {p q : Place} :
    (∃ n, Steps (Matches (.set set)) n p q) ↔ ∃ u, (∀ c ∈ u, set.contains c = true) ∧ Reads p u q := by
  constructor
  · rintro ⟨n, h⟩
    induction h with
    | zero => exact ⟨[], nofun, Reads.nil.2 rfl⟩
    | succ first _ ih =>
      obtain ⟨u, hu, hreads⟩ := ih
      cases first with
      | set first =>
        obtain ⟨c, hc, hfirst⟩ := next_iff.1 first
        exact ⟨c :: u, List.forall_mem_cons.2 ⟨hc, hu⟩, hfirst.trans hreads⟩
  · rintro ⟨u, hu, h⟩
    induction u generalizing p with
    | nil =>
      obtain rfl := Reads.nil.1 h
      exact ⟨0, .zero⟩
    | cons c u ih =>
      obtain ⟨hc, hu⟩ := List.forall_mem_cons.1 hu
      obtain ⟨m, hfirst, hrest⟩ := Reads.split (u := [c]) h
      obtain ⟨n, hsteps⟩ := ih hu hrest
      exact ⟨n + 1, .succ (.set (next_iff.2 ⟨c, hc, hfirst⟩)) hsteps⟩

theorem matches_ofList_cons_iff {r : Regex} {rs : List Regex} {p q : Place} :
    Matches (ofList (r :: rs)) p q ↔ ∃ m, Matches r p m ∧ Matches (ofList rs) m q := by
  cases rs with
  | nil =>
    constructor
    · exact fun h => ⟨q, h, .empty⟩
    · rintro ⟨m, h, ⟨⟩⟩
      exact h
  | cons r' rs =>
    constructor
    · rintro ⟨⟩
      exact ⟨_, ‹_›, ‹_›⟩
    · rintro ⟨m, h, h'⟩
      exact .seq h h'

theorem matches_ofList_append_iff {rs rs' : List Regex} {p q : Place} :
    Matches (ofList (rs ++ rs')) p q ↔
      ∃ m, Matches (ofList rs) p m ∧ Matches (ofList rs') m q := by
  induction rs generalizing p with
  | nil =>
    constructor
    · exact fun h => ⟨p, .empty, h⟩
    · rintro ⟨m, ⟨⟩, h⟩
      exact h
  | cons r rs ih =>
    simp only [List.cons_append, matches_ofList_cons_iff, ih]
    constructor
    · rintro ⟨m, h, n, h', h''⟩
      exact ⟨n, ⟨m, h, h'⟩, h''⟩
    · rintro ⟨n, ⟨m, h, h'⟩, h''⟩
      exact ⟨m, h, n, h', h''⟩

/-! ## Texts -/

theorem placesFrom_spec {before rest : List Char} {i : Nat} (hs : before.reverse ++ rest = text)
    (hi : i = before.length) :
    Places text (placesFrom i before rest) ∧ ∀ p, p ∈ placesFrom i before rest ↔ p.Of text ∧ i ≤ p.index := by
  have hfirst : (⟨i, before, rest⟩ : Place).Of text := ⟨hs, hi⟩
  induction rest generalizing i before with
  | nil =>
    refine ⟨⟨fun p hp => List.mem_singleton.1 hp ▸ hfirst, List.pairwise_singleton _ _⟩, fun p => ?_⟩
    rw [placesFrom, List.mem_singleton]
    constructor
    · rintro rfl
      exact ⟨hfirst, Nat.le_refl i⟩
    · rintro ⟨hp, hle⟩
      have hend : text.length = i := by rw [← hs, hi, List.append_nil, List.length_reverse]
      exact hp.eq hfirst (Nat.le_antisymm (hend ▸ hp.index_le) hle)
  | cons c rest ih =>
    have hs' : (c :: before).reverse ++ rest = text := by
      rw [← hs, List.reverse_cons, List.append_assoc, List.singleton_append]
    have hi' : i + 1 = (c :: before).length := congrArg (· + 1) hi
    obtain ⟨hplaces, hmem⟩ := ih hs' hi' ⟨hs', hi'⟩
    refine ⟨⟨List.forall_mem_cons.2 ⟨hfirst, hplaces.of⟩, List.pairwise_cons.2 ⟨fun p hp => ?_, hplaces.sorted⟩⟩,
      fun p => ?_⟩
    · exact ((hmem p).1 hp).2
    · rw [placesFrom, List.mem_cons, hmem]
      constructor
      · rintro (rfl | ⟨hp, hle⟩)
        · exact ⟨hfirst, Nat.le_refl i⟩
        · exact ⟨hp, Nat.le_of_succ_le hle⟩
      · rintro ⟨hp, hle⟩
        rcases Nat.lt_or_eq_of_le hle with hlt | heq
        · exact .inr ⟨hp, hlt⟩
        · exact .inl (hp.eq hfirst heq.symm)

/-- A text matches where the expression does between two of its places. -/
theorem isMatch_iff (r : Regex) (text : List Char) :
    isMatch r text = true ↔ ∃ p q, p.Of text ∧ Matches r p q := by
  obtain ⟨hplaces, hmem⟩ : Places text (placesFrom 0 [] text) ∧
      ∀ p, p ∈ placesFrom 0 [] text ↔ p.Of text ∧ 0 ≤ p.index := placesFrom_spec rfl rfl
  obtain ⟨-, hends⟩ := takes_ends text r _ hplaces
  rw [isMatch, Bool.not_eq_true', List.isEmpty_eq_false_iff_exists_mem]
  constructor
  · rintro ⟨q, hq⟩
    obtain ⟨p, hp, h⟩ := (hends q).1 hq
    exact ⟨p, q, ((hmem p).1 hp).1, h⟩
  · rintro ⟨p, q, hp, h⟩
    exact ⟨q, (hends q).2 ⟨p, (hmem p).2 ⟨hp, Nat.zero_le _⟩, h⟩⟩

end DocQuery.Regex
