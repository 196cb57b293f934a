import DocQuery.Proofs.Complements
import DocQuery.Proofs.Equality
import DocQuery.Proofs.Folding
import DocQuery.Proofs.Searches

/-!
# Texts that like patterns stand for

An instance of a pattern is told sign by sign (`IsInstance`).  The expression of the pattern searches a text for a part
that the tokens span, which begins and ends where it may:

    IsInstance p s         ↔ s = pre ++ mid ++ post and the tokens of p span mid           (isInstance_iff)
    Matches (signs) a b    ↔ the tokens span what stands between a and b                   (matches_tokens_iff)
    isMatch (signs p) s    ↔ IsInstance p s                                                (isMatch_signs_iff)

A run `.*` stays within a line.  At the ends of a pattern this does not show, for there the expression is not anchored;
between two other signs a run never stands for a line feed.

    label like "a%b"       finds "axxb" and "AB", and not "a\nb"
    label like "a%"        finds "a\nb", too
-/

namespace DocQuery

open Regex

namespace Like

open Unicode (fold)

/-! ## Instances -/

/-- Whether a text is an instance of a pattern.  A percent sign stands for a run of characters: of any characters at
either end of the pattern, and of `inner` ones where another sign comes `before` it and one behind it. -/
inductive IsInstance (inner : Char → Prop) : Bool → List Char → List Char → Prop where
  | nil {before : Bool} : IsInstance inner before [] []
  | percentSign {before : Bool} {rest : List Char} {d : Char} {s : List Char} (hd : fold '%' = fold d)
      (later : IsInstance inner true rest s) : IsInstance inner before ('\\' :: '%' :: rest) (d :: s)
  | char {before : Bool} {c : Char} {rest : List Char} {d : Char} {s : List Char} (hc : c ≠ '%')
      (hescape : c = '\\' → rest.head? ≠ some '%') (hd : fold c = fold d) (later : IsInstance inner true rest s) :
      IsInstance inner before (c :: rest) (d :: s)
  | run {before : Bool} {rest u s : List Char} (hu : before = true → (∃ c ∈ rest, c ≠ '%') → ∀ c ∈ u, inner c)
      (later : IsInstance inner before rest s) : IsInstance inner before ('%' :: rest) (u ++ s)

variable {inner : Char → Prop} {before : Bool}

theorem isInstance_nil_iff {s : List Char} : IsInstance inner before [] s ↔ s = [] := by
  constructor
  · rintro ⟨⟩
    rfl
  · rintro rfl
    exact .nil

theorem isInstance_run_iff {rest s : List Char} : IsInstance inner before ('%' :: rest) s ↔
    ∃ u s', s = u ++ s' ∧ (before = true → (∃ c ∈ rest, c ≠ '%') → ∀ c ∈ u, inner c) ∧
      IsInstance inner before rest s' := by
  constructor
  · intro h
    cases h with
    | char hc => exact absurd rfl hc
    | run hu later => exact ⟨_, _, rfl, hu, later⟩
  · rintro ⟨u, s', rfl, hu, later⟩
    exact .run hu later

theorem isInstance_percentSign_iff {rest s : List Char} : IsInstance inner before ('\\' :: '%' :: rest) s ↔
    ∃ d s', s = d :: s' ∧ fold '%' = fold d ∧ IsInstance inner true rest s' := by
  constructor
  · intro h
    cases h with
    | percentSign hd later => exact ⟨_, _, rfl, hd, later⟩
    | char hc hescape => exact absurd rfl (hescape rfl)
  · rintro ⟨d, s', rfl, hd, later⟩
    exact .percentSign hd later

theorem isInstance_char_iff {c : Char} {rest s : List Char} (hc : c ≠ '%')
    (hescape : c = '\\' → rest.head? ≠ some '%') : IsInstance inner before (c :: rest) s ↔
      ∃ d s', s = d :: s' ∧ fold c = fold d ∧ IsInstance inner true rest s' := by
  constructor
  · intro h
    cases h with
    | percentSign hd later => exact absurd rfl (hescape rfl)
    | char hc hescape hd later => exact ⟨_, _, rfl, hd, later⟩
    | run hu later => exact absurd rfl hc
  · rintro ⟨d, s', rfl, hd, later⟩
    exact .char hc hescape hd later

/-- Fewer conditions hold at the start of a pattern than behind another sign. -/
theorem IsInstance.weaken {p s : List Char} (h : IsInstance inner true p s) (before : Bool) :
    IsInstance inner before p s := by
  generalize hb : true = first at h
  induction h with
  | nil => exact .nil
  | percentSign hd later => exact .percentSign hd later
  | char hc hescape hd later => exact .char hc hescape hd later
  | run hu _ ih => exact .run (fun _ => hu hb.symm) (ih hb)

/-- An instance is one that may begin later, where the pattern begins with a run. -/
theorem isInstance_false_iff {p s : List Char} : IsInstance inner false p s ↔
    ∃ pre s', s = pre ++ s' ∧ IsInstance inner true p s' ∧ (pre = [] ∨ p.head? = some '%') := by
  constructor
  · intro h
    generalize hb : false = first at h
    induction h with
    | nil => exact ⟨[], [], rfl, .nil, .inl rfl⟩
    | percentSign hd later => exact ⟨[], _, rfl, .percentSign hd later, .inl rfl⟩
    | char hc hescape hd later => exact ⟨[], _, rfl, .char hc hescape hd later, .inl rfl⟩
    | @run _ rest u s _ _ ih =>
      obtain ⟨pre, s', rfl, later, -⟩ := ih hb
      exact ⟨u ++ pre, s', (List.append_assoc ..).symm, isInstance_run_iff.2 ⟨[], s', rfl, nofun, later⟩, .inr rfl⟩
  · rintro ⟨pre, s', rfl, h, rfl | hp⟩
    · exact h.weaken false
    · obtain ⟨rest, rfl⟩ := List.head?_eq_some_iff.1 hp
      obtain ⟨u, s'', rfl, -, later⟩ := isInstance_run_iff.1 h
      exact isInstance_run_iff.2 ⟨pre ++ u, s'', (List.append_assoc ..).symm, nofun, later.weaken false⟩

/-! ## Tokens -/

/-- The signs of tokens between two ends: characters one by one, and runs within a line. -/
inductive Spans : List Token → List Char → Prop where
  | nil : Spans [] []
  | char {c d : Char} {ts : List Token} {s : List Char} (hd : fold c = fold d) (later : Spans ts s) :
      Spans (.char c :: ts) (d :: s)
  | run {ts : List Token} {u s : List Char} (hu : ∀ c ∈ u, c ≠ '\n') (later : Spans ts s) :
      Spans (.anyRun :: ts) (u ++ s)

theorem spans_char_iff {c : Char} {ts : List Token} {s : List Char} :
    Spans (.char c :: ts) s ↔ ∃ d s', s = d :: s' ∧ fold c = fold d ∧ Spans ts s' := by
  constructor
  · rintro (_ | ⟨hd, later⟩)
    exact ⟨_, _, rfl, hd, later⟩
  · rintro ⟨d, s', rfl, hd, later⟩
    exact .char hd later

theorem spans_run_iff {ts : List Token} {s : List Char} :
    Spans (.anyRun :: ts) s ↔ ∃ u s', s = u ++ s' ∧ (∀ c ∈ u, c ≠ '\n') ∧ Spans ts s' := by
  constructor
  · rintro (_ | _ | ⟨hu, later⟩)
    exact ⟨_, _, rfl, hu, later⟩
  · rintro ⟨u, s', rfl, hu, later⟩
    exact .run hu later

/-- Whether tokens end with a run. -/
theorem getLast?_cons_eq_anyRun_iff {t : Token} {ts : List Token} :
    (t :: ts).getLast? = some .anyRun ↔ ts.getLast? = some .anyRun ∨ (ts = [] ∧ t = .anyRun) := by
  cases ts with
  | nil => simp
  | cons t' rest => simp

/-- Runs alone span no text, too, and the last of them is a run. -/
theorem spans_of_runs {ts : List Token} (h : ∀ t ∈ ts, t = .anyRun) :
    Spans ts [] ∧ (Token.anyRun :: ts).getLast? = some .anyRun := by
  induction ts with
  | nil => exact ⟨.nil, rfl⟩
  | cons t rest ih =>
    obtain ⟨rfl, hrest⟩ := List.forall_mem_cons.1 h
    obtain ⟨hspans, hlast⟩ := ih hrest
    exact ⟨spans_run_iff.2 ⟨[], [], rfl, nofun, hspans⟩, getLast?_cons_eq_anyRun_iff.2 (.inl hlast)⟩

/-- Tokens span a text up to its end, or up to any place in it where the last of them is a run. -/
def SpansStart (ts : List Token) (s : List Char) : Prop :=
  ∃ mid post, s = mid ++ post ∧ Spans ts mid ∧ (post = [] ∨ ts.getLast? = some .anyRun)

theorem spansStart_nil_iff {s : List Char} : SpansStart [] s ↔ s = [] := by
  constructor
  · rintro ⟨mid, post, rfl, ⟨⟩, hpost⟩
    exact hpost.resolve_right nofun
  · rintro rfl
    exact ⟨[], [], rfl, .nil, .inl rfl⟩

theorem spansStart_char_iff {c : Char} {ts : List Token} {s : List Char} :
    SpansStart (.char c :: ts) s ↔ ∃ d s', s = d :: s' ∧ fold c = fold d ∧ SpansStart ts s' := by
  have hlast : (Token.char c :: ts).getLast? = some .anyRun ↔ ts.getLast? = some .anyRun := by
    simp [getLast?_cons_eq_anyRun_iff]
  simp only [SpansStart, spans_char_iff, hlast]
  constructor
  · rintro ⟨mid, post, rfl, ⟨d, mid, rfl, hd, hspans⟩, hpost⟩
    exact ⟨d, mid ++ post, rfl, hd, mid, post, rfl, hspans, hpost⟩
  · rintro ⟨d, s', rfl, hd, mid, post, rfl, hspans, hpost⟩
    exact ⟨d :: mid, post, rfl, ⟨d, mid, rfl, hd, hspans⟩, hpost⟩

/-- A run that another sign comes behind stays within a line. -/
theorem spansStart_run_iff {ts : List Token} {s : List Char} :
    SpansStart (.anyRun :: ts) s ↔ ∃ u s', s = u ++ s' ∧
      ((∃ t ∈ ts, t ≠ .anyRun) → ∀ c ∈ u, c ≠ '\n') ∧ SpansStart ts s' := by
  constructor
  · rintro ⟨mid, post, rfl, hspans, hpost⟩
    obtain ⟨u, s', rfl, hu, hspans⟩ := spans_run_iff.1 hspans
    rw [getLast?_cons_eq_anyRun_iff, ← or_assoc] at hpost
    rcases hpost with hpost | ⟨rfl, -⟩
    · exact ⟨u, s' ++ post, List.append_assoc .., fun _ => hu, s', post, rfl, hspans, hpost⟩
    · cases hspans
      exact ⟨u ++ post, [], by simp, by simp, spansStart_nil_iff.2 rfl⟩
  · rintro ⟨u, s', rfl, hu, mid, post, rfl, hspans, hpost⟩
    by_cases hrest : ∃ t ∈ ts, t ≠ .anyRun
    · exact ⟨u ++ mid, post, (List.append_assoc ..).symm, .run (hu hrest) hspans,
        hpost.imp_right fun h => getLast?_cons_eq_anyRun_iff.2 (.inl h)⟩
    · -- Nothing but runs is left, so the tokens span nothing and the rest is open.
      have hruns : ∀ t ∈ ts, t = .anyRun := by simpa using hrest
      obtain ⟨hspans, hlast⟩ := spans_of_runs hruns
      exact ⟨[], u ++ (mid ++ post), rfl, spans_run_iff.2 ⟨[], [], rfl, nofun, hspans⟩, .inr hlast⟩

/-! ## The tokens of a pattern -/

theorem head?_tokens_iff {p : List Char} : (tokens p).head? = some .anyRun ↔ p.head? = some '%' := by
  fun_cases tokens p with
  | case1 => simp
  | case2 => simp
  | case3 c rest _ hc => simpa using hc
  | case4 => simp

theorem exists_ne_anyRun_iff {p : List Char} : (∃ t ∈ tokens p, t ≠ .anyRun) ↔ ∃ c ∈ p, c ≠ '%' := by
  fun_induction tokens p with
  | case1 rest => simp
  | case2 rest ih => simpa using ih
  | case3 c rest _ hc => exact ⟨fun _ => ⟨c, List.mem_cons_self, hc⟩, fun _ => ⟨.char c, List.mem_cons_self, by simp⟩⟩
  | case4 => simp

theorem head?_ne_of_no_escape {c : Char} {rest : List Char} (h : ∀ later, c = '\\' → rest = '%' :: later → False) :
    c = '\\' → rest.head? ≠ some '%' := by
  intro hc hrest
  obtain ⟨later, rfl⟩ := List.head?_eq_some_iff.1 hrest
  exact h later hc rfl

/-- Behind another sign, an instance is what the tokens span. -/
theorem isInstance_true_iff {p s : List Char} :
    IsInstance (· ≠ '\n') true p s ↔ SpansStart (tokens p) s := by
  fun_induction tokens p generalizing s with
  | case1 rest ih => simp only [isInstance_percentSign_iff, spansStart_char_iff, ih]
  | case2 rest ih => simp only [isInstance_run_iff, spansStart_run_iff, exists_ne_anyRun_iff, ih, forall_const]
  | case3 c rest hescape hc ih =>
    simp only [isInstance_char_iff hc (head?_ne_of_no_escape hescape), spansStart_char_iff, ih]
  | case4 => rw [isInstance_nil_iff, spansStart_nil_iff]

/-- An instance is what the signs of the pattern match, with anything before and behind it where the pattern begins
and ends with a run. -/
theorem isInstance_iff {p s : List Char} : IsInstance (· ≠ '\n') false p s ↔
    ∃ pre mid post, s = pre ++ mid ++ post ∧ Spans (tokens p) mid ∧
      (pre = [] ∨ (tokens p).head? = some .anyRun) ∧ (post = [] ∨ (tokens p).getLast? = some .anyRun) := by
  simp only [isInstance_false_iff, isInstance_true_iff, head?_tokens_iff, SpansStart]
  constructor
  · rintro ⟨pre, s', rfl, ⟨mid, post, rfl, hspans, hlast⟩, hfirst⟩
    exact ⟨pre, mid, post, (List.append_assoc ..).symm, hspans, hfirst, hlast⟩
  · rintro ⟨pre, mid, post, rfl, hspans, hfirst, hlast⟩
    exact ⟨pre, mid ++ post, List.append_assoc .., ⟨mid, post, rfl, hspans, hlast⟩, hfirst⟩

/-! ## Signs -/

theorem openStart_iff (ts : List Token) :
    ((segments ts).1.isEmpty && !(segments ts).2.isEmpty) = true ↔ ts.head? = some .anyRun := by
  rcases ts with _ | ⟨_ | _, rest⟩ <;> simp [segments]

theorem openEnd_iff (ts : List Token) :
    (segments ts).2.getLast?.any List.isEmpty = true ↔ ts.getLast? = some .anyRun := by
  induction ts with
  | nil => simp [segments]
  | cons t rest ih =>
    rw [getLast?_cons_eq_anyRun_iff, ← ih]
    cases t with
    | char c => simp [segments]
    | anyRun =>
      -- The part behind the last run is empty, or it is the part before the first of the later runs.
      rcases rest with _ | ⟨_ | _, rest⟩
      · simp [segments]
      · cases h : (segments rest).2 <;> simp [segments, h]
      · simp [segments]

theorem signs_eq (p : List Char) : signs p =
    (if (tokens p).head? = some .anyRun then [] else [.start]) ++ (tokens p).map Token.sign ++
      (if (tokens p).getLast? = some .anyRun then [] else [.finish]) := by
  rw [← signsOf_segments, ← if_congr (openStart_iff (tokens p)) rfl rfl, ← if_congr (openEnd_iff (tokens p)) rfl rfl]
  rw [signs]
  cases (segments (tokens p)).2.getLast? <;> rfl

/-! ## Expressions -/

theorem matches_char_iff {c : Char} {p q : Place} :
    Matches (Sign.char c).regex p q ↔ ∃ d, fold c = fold d ∧ Reads p [d] q := by
  have hset : Matches (Sign.char c).regex p q ↔ Next (.folded (.single c)) p q := by
    constructor
    · intro h
      cases h with
      | set h => exact h
    · exact .set
  simp only [hset, next_iff, Unicode.CharSet.contains_folded_single]

theorem matches_anyRun_iff {p q : Place} :
    Matches Sign.anyRun.regex p q ↔ ∃ u, (∀ c ∈ u, c ≠ '\n') ∧ Reads p u q := by
  have hset : ∀ c, (Unicode.CharSet.compl (.single '\n')).contains c = true ↔ c ≠ '\n' := by
    intro c
    rw [Unicode.CharSet.contains, Bool.not_eq_true', Bool.eq_false_iff, ne_eq, ne_eq,
      Unicode.CharSet.contains_single_iff, eq_comm]
  rw [Sign.regex, matches_repeated_iff]
  simp only [← hset, ← steps_next_iff]
  constructor
  · rintro ⟨m, ⟨⟩, n, -, h⟩
    exact ⟨n, h⟩
  · rintro ⟨n, h⟩
    exact ⟨p, .zero, n, by simp, h⟩

/-- The signs of tokens match what these span. -/
theorem matches_tokens_iff {ts : List Token} {p q : Place} :
    Matches (Regex.ofList (ts.map fun t => t.sign.regex)) p q ↔ ∃ u, Spans ts u ∧ Reads p u q := by
  induction ts generalizing p with
  | nil =>
    constructor
    · rintro ⟨⟩
      exact ⟨[], .nil, Reads.nil.2 rfl⟩
    · rintro ⟨u, ⟨⟩, h⟩
      obtain rfl := Reads.nil.1 h
      exact .empty
  | cons t rest ih =>
    rw [List.map_cons, matches_ofList_cons_iff]
    simp only [ih]
    cases t with
    | char c =>
      simp only [Token.sign, matches_char_iff, spans_char_iff]
      constructor
      · rintro ⟨m, ⟨d, hd, hfirst⟩, u, hspans, hrest⟩
        exact ⟨d :: u, ⟨d, u, rfl, hd, hspans⟩, hfirst.trans hrest⟩
      · rintro ⟨_, ⟨d, u, rfl, hd, hspans⟩, h⟩
        obtain ⟨m, hfirst, hrest⟩ := Reads.split (u := [d]) h
        exact ⟨m, ⟨d, hd, hfirst⟩, u, hspans, hrest⟩
    | anyRun =>
      simp only [Token.sign, matches_anyRun_iff, spans_run_iff]
      constructor
      · rintro ⟨m, ⟨u, hu, hfirst⟩, v, hspans, hrest⟩
        exact ⟨u ++ v, ⟨u, v, rfl, hu, hspans⟩, hfirst.trans hrest⟩
      · rintro ⟨_, ⟨u, v, rfl, hu, hspans⟩, h⟩
        obtain ⟨m, hfirst, hrest⟩ := h.split
        exact ⟨m, ⟨u, hu, hfirst⟩, v, hspans, hrest⟩

/-- An end of a pattern: a condition on the place, but where the end is open. -/
theorem matches_end_iff {isOpen : Prop} [Decidable isOpen] {s : Sign} {l : Look} (hs : s.regex = .look l)
    {p q : Place} :
    Matches (Regex.ofList ((if isOpen then [] else [s]).map Sign.regex)) p q ↔ p = q ∧ (l.holds p = true ∨ isOpen) := by
  split
  · rename_i h
    constructor
    · rintro ⟨⟩
      exact ⟨rfl, .inr h⟩
    · rintro ⟨rfl, -⟩
      exact .empty
  · rename_i h
    show Matches s.regex p q ↔ _
    rw [hs]
    constructor
    · intro hm
      cases hm with
      | look hl => exact ⟨rfl, .inl hl⟩
    · rintro ⟨rfl, hl | hl⟩
      · exact .look hl
      · exact absurd hl h

/-- The expression of a pattern is found in its instances. -/
theorem isMatch_signs_iff (p s : List Char) :
    Regex.isMatch (Regex.ofList ((signs p).map Sign.regex)) s = true ↔ IsInstance (· ≠ '\n') false p s := by
  rw [isMatch_iff, isInstance_iff, signs_eq, List.map_append, List.map_append, List.map_map]
  simp only [matches_ofList_append_iff]
  constructor
  · rintro ⟨a, b, ha, m, ⟨n, hstart, htokens⟩, hend⟩
    obtain ⟨rfl, hfirst⟩ := (matches_end_iff rfl).1 hstart
    obtain ⟨rfl, hlast⟩ := (matches_end_iff rfl).1 hend
    obtain ⟨u, hspans, hreads⟩ := matches_tokens_iff.1 htokens
    refine ⟨a.before.reverse, u, m.after, ?_, hspans, hfirst.imp_left fun h => ?_, hlast.imp_left List.isEmpty_iff.1⟩
    · rw [← ha.split, hreads.after, List.append_assoc]
    · rw [List.isEmpty_iff.1 h]
      rfl
  · rintro ⟨pre, mid, post, rfl, hspans, hstart, hend⟩
    let a : Place := ⟨pre.length, pre.reverse, mid ++ post⟩
    let b : Place := ⟨pre.length + mid.length, mid.reverse ++ pre.reverse, post⟩
    have ha : a.Of (pre ++ mid ++ post) := ⟨by simp [a], by simp [a]⟩
    refine ⟨a, b, ha, b, ⟨a, (matches_end_iff rfl).2 ⟨rfl, hstart.imp_left ?_⟩,
      matches_tokens_iff.2 ⟨mid, hspans, rfl, rfl, rfl⟩⟩, (matches_end_iff rfl).2 ⟨rfl, hend.imp_left ?_⟩⟩
    · rintro rfl
      rfl
    · rintro rfl
      rfl

/-! ## Patterns without room -/

theorem isInstance_replicate (n : Nat) : IsInstance inner before (List.replicate n '%') [] := by
  induction n with
  | zero => exact .nil
  | succ n ih => exact .run (u := []) nofun ih

theorem tokens_replicate (n : Nat) : tokens (List.replicate n '%') = List.replicate n .anyRun := by
  induction n with
  | zero => rfl
  | succ n ih => rw [List.replicate_succ, tokens, ih, List.replicate_succ]

theorem signs_replicate (n : Nat) : signs (List.replicate (n + 1) '%') = List.replicate (n + 1) .anyRun := by
  have hfirst : (List.replicate (n + 1) Token.anyRun).head? = some .anyRun := rfl
  have hlast : (List.replicate (n + 1) Token.anyRun).getLast? = some .anyRun := by
    rw [List.getLast?_replicate]
    rfl
  rw [signs_eq, tokens_replicate, if_pos hfirst, if_pos hlast, List.map_replicate, List.nil_append, List.append_nil]
  rfl

theorem plan_anyRun : Sign.anyRun.regex.plan = .repeated (.set [(0, 9), (11, 0x10FFFF)]) 0 none := by decide +kernel

/-- The expression of runs in a row. -/
def runs (n : Nat) : Regex := Regex.ofList (List.replicate n Sign.anyRun.regex)

theorem runs_succ (n : Nat) : runs (n + 2) = .seq Sign.anyRun.regex (runs (n + 1)) := rfl

theorem weight_runs (n : Nat) : 7 * (n + 1) ≤ (runs (n + 1)).weight := by
  have hsign : Sign.anyRun.regex.weight = 7 := by decide
  induction n with
  | zero => exact Nat.le_of_eq hsign.symm
  | succ n ih =>
    rw [runs_succ, weight, hsign]
    omega

theorem plan_seq_anyRun {r : Regex} (h : r.plan ≠ .empty) :
    (Regex.seq Sign.anyRun.regex r).plan = .seq Sign.anyRun.regex.plan r.plan := by
  show Plan.append Sign.anyRun.regex.plan r.plan = _
  rw [plan_anyRun]
  generalize r.plan = p at h
  cases p with
  | empty => exact absurd rfl h
  | _ => rfl

theorem plan_runs_ne_empty (n : Nat) : (runs (n + 1)).plan ≠ .empty := by
  induction n with
  | zero =>
    show Sign.anyRun.regex.plan ≠ _
    rw [plan_anyRun]
    nofun
  | succ n ih =>
    rw [runs_succ, plan_seq_anyRun ih]
    nofun

/-- A machine that reads backwards keeps a kibibyte and more for each run. -/
theorem planRoom_runs (n : Nat) : 1040 * (n + 1) ≤ Machine.planRoom .backwards (runs (n + 1)).plan := by
  have hsign : Machine.planRoom .backwards Sign.anyRun.regex.plan = 1040 := by
    rw [plan_anyRun]
    decide +kernel
  induction n with
  | zero => exact Nat.le_of_eq hsign.symm
  | succ n ih =>
    rw [runs_succ, plan_seq_anyRun (plan_runs_ne_empty n), Machine.planRoom, hsign]
    omega

/-- A pattern of very many runs has no room. -/
theorem not_hasRoom_of_runs {n : Nat} (h : Machine.limit < 1040 * n) :
    ¬ HasRoom (String.ofList (List.replicate n '%')) := by
  cases n with
  | zero => exact absurd h (by decide)
  | succ n =>
    intro hroom
    have hfits : (runs (n + 1)).fits = true := by
      have hfits := hroom _ (parse?_toPattern _)
      rwa [String.toList_ofList, signs_replicate, List.map_replicate] at hfits
    have hweight := weight_runs n
    have hneed := planRoom_runs n
    rw [fits, if_neg (by rw [Machine.rangeRoom]; omega)] at hfits
    have hle : Machine.room .backwards (runs (n + 1)).plan ≤ Machine.limit :=
      of_decide_eq_true (List.all_eq_true.1 hfits .backwards (by decide))
    rw [Machine.room, Machine.planRoom] at hle
    omega

end Like

/-! ## Clauses -/

namespace Clause

section

variable {column op : String} {d : Document} {s : String}

theorem test_like (hc : Expression.isOperatorName column = false) (ho : Operator.parse? op = some (.like false))
    (hs : Path.resolve d (Path.parse column) = some (.string s)) (k : Connective) (pattern : String) :
    test d ⟨k, .basic column op (.string pattern)⟩ =
      Filter.meets (.regex (Like.toPattern pattern)) (some (.string s)) := by
  let c : Clause := ⟨k, .basic column op (.string pattern)⟩
  have hfilter : FilterDocument.ofPredicate c.predicate = .ok [(column, .regex (Like.toPattern pattern))] :=
    Predicate.ofPredicate_like ho column pattern
  rw [test_of_compiles hfilter, Filter.accepts_column hc, hs]

theorem meets_like {pattern : String} (h : Like.HasRoom pattern) (s : String) :
    ∃ answer, Filter.meets (.regex (Like.toPattern pattern)) (some (.string s)) = .ok answer ∧
      (answer = true ↔ Like.IsInstance (· ≠ '\n') false pattern.toList s.toList) := by
  obtain ⟨answer, ha, hfound⟩ := Filter.meets_regex (Like.compile?_toPattern h) (some (.string s))
  refine ⟨answer, ha, hfound.trans (Iff.trans ?_ (Like.isMatch_signs_iff _ _))⟩
  constructor
  · rintro ⟨h⟩
    exact h
  · exact .text

theorem meets_like_of_no_room {pattern : String} (h : ¬ Like.HasRoom pattern) (v : Option Value) :
    Filter.meets (.regex (Like.toPattern pattern)) v =
      Outcome.invalid ("bad regex /" ++ (Like.toPattern pattern).source ++ "/") := by
  refine Filter.meets_bad_regex ?_ v
  rw [Pattern.compile?, Like.parse?_toPattern, Option.filter_some, if_neg]
  refine fun hfits => h fun r hr => ?_
  rw [Like.parse?_toPattern] at hr
  cases hr
  exact hfits

/-! ## Main result -/

/-- A like clause holds of a text that is an instance of the pattern, where a run between two other signs stands for
characters of one line.  A pattern that has no room is an error for every text. -/
theorem like_spec (hc : Expression.isOperatorName column = false) (ho : Operator.parse? op = some (.like false))
    (hs : Path.resolve d (Path.parse column) = some (.string s)) (k : Connective) (pattern : String) :
    let c : Clause := ⟨k, .basic column op (.string pattern)⟩
    (Like.HasRoom pattern → ∃ answer, test d c = .ok answer ∧
      (answer = true ↔ Like.IsInstance (· ≠ '\n') false pattern.toList s.toList)) ∧
    (¬ Like.HasRoom pattern →
      test d c = Outcome.invalid ("bad regex /" ++ (Like.toPattern pattern).source ++ "/")) := by
  intro c
  rw [test_like hc ho hs k pattern]
  exact ⟨fun h => meets_like h s, fun h => meets_like_of_no_room h _⟩

/-- An escaped percent sign, a run at the end and one within, and the Kelvin sign, whose case is that of a letter. -/
theorem like_spec_kelvin :
    let d : Document := [("label", .string "50% \u212A\n")]
    let c : Clause := ⟨.and, .basic "label" "LIKE" (.string "5%\\% k%")⟩
    Expression.isOperatorName "label" = false ∧ Operator.parse? "LIKE" = some (.like false) ∧
      Path.resolve d (Path.parse "label") = some (.string "50% \u212A\n") ∧ Like.HasRoom "5%\\% k%" ∧
      test d c = .ok true := by
  intro d c
  have hcolumn : Expression.isOperatorName "label" = false := by decide
  have hop : Operator.parse? "LIKE" = some (.like false) := by decide +kernel
  have hvalue : Path.resolve d (Path.parse "label") = some (.string "50% \u212A\n") := rfl
  have hroom : Like.HasRoom "5%\\% k%" := Like.hasRoom_of_length (by decide)
  obtain ⟨answer, ha, hinstance⟩ := (like_spec hcolumn hop hvalue .and _).1 hroom
  refine ⟨hcolumn, hop, hvalue, hroom, ha.trans (congrArg _ (hinstance.2 ?_))⟩
  have hfold : Unicode.fold 'k' = Unicode.fold '\u212A' := by decide +kernel
  exact .char (by decide) (by decide) rfl (.run (u := ['0']) (by simp) (.percentSign rfl
    (.char (by decide) (by decide) rfl (.char (by decide) (by decide) hfold (.run (u := ['\n']) (by simp) .nil)))))

end

/-- Not all that a pattern stands for is found: a run between two other signs stops at the end of a line, a column may
be an operator's name, and a pattern of very many runs has no room. -/
theorem like_limits :
    let standsFor (pattern s : String) : Prop := Like.IsInstance (fun _ => True) false pattern.toList s.toList
    let like (column pattern : String) : Clause := ⟨.and, .basic column "like" (.string pattern)⟩
    let runs := String.ofList (List.replicate 100000 '%')
    (standsFor "a%b" "a\nb" ∧ test [("label", .string "a\nb")] (like "label" "a%b") = .ok false) ∧
    (standsFor "x" "x" ∧
      test [("$label", .string "x")] (like "$label" "x") = .error (.error (.unsupportedOperator "$label"))) ∧
    (standsFor runs "" ∧ test [("label", .string "")] (like "label" runs) =
      Outcome.invalid ("bad regex /" ++ (Like.toPattern runs).source ++ "/")) := by
  intro standsFor like runs
  have hop : Operator.parse? "like" = some (.like false) := by decide
  refine ⟨⟨?_, ?_⟩, ⟨.char (by decide) (by decide) rfl .nil, rfl⟩, ?_, ?_⟩
  · exact .char (by decide) (by decide) rfl (.run (u := ['\n']) (by simp) (.char (by decide) (by decide) rfl .nil))
  · have hroom : Like.HasRoom "a%b" := Like.hasRoom_of_length (by decide)
    obtain ⟨answer, ha, hinstance⟩ := meets_like hroom "a\nb"
    rw [test_like (s := "a\nb") (by decide) hop rfl, ha]
    refine congrArg _ (Bool.eq_false_iff.2 fun h => ?_)
    have hfound : Like.IsInstance (· ≠ '\n') false ['a', '%', 'b'] ['a', '\n', 'b'] := hinstance.1 h
    obtain ⟨_, _, ⟨⟩, -, later⟩ := (Like.isInstance_char_iff (by decide) (by decide)).1 hfound
    obtain ⟨u, s, hu, hline, later⟩ := Like.isInstance_run_iff.1 later
    cases u with
    | nil =>
      obtain ⟨_, _, rfl, hd, -⟩ := (Like.isInstance_char_iff (by decide) (by decide)).1 later
      cases hu
      exact absurd hd (by decide)
    | cons c u =>
      obtain rfl := (List.cons.inj hu).1
      exact hline rfl ⟨'b', by simp, by decide⟩ _ List.mem_cons_self rfl
  · show Like.IsInstance _ _ runs.toList []
    rw [String.toList_ofList]
    exact Like.isInstance_replicate 100000
  · have hroom : ¬ Like.HasRoom runs := Like.not_hasRoom_of_runs (by decide)
    rw [test_like (s := "") (by decide) hop rfl, meets_like_of_no_room hroom]

end Clause

end DocQuery
