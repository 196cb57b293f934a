import DocQuery.Query.Like
import DocQuery.Regex.Parser
import Mathlib.Algebra.Order.Ring.Nat

/-!
# Like patterns are regular expressions

The expression of a like pattern is a sequence of four kinds of signs: escaped characters, runs `.*`, and the two
ends.  Read from the left, every sign is one item:

    readFrom n st (signs) = the items of st, then one for each sign                (readFrom_text)
    parse? "(?i)…"        = the sequence of the signs' expressions                 (parse?_toPattern)

A pattern of up to a thousand characters has room, too (`hasRoom_of_length`).
-/

namespace DocQuery

open Regex

namespace Like

/-! ## Signs -/

inductive Sign where
  | char (c : Char)
  | anyRun
  | start
  | finish
  deriving DecidableEq, Repr

namespace Sign

/-- What a sign looks like in an expression. -/
def text : Sign → List Char
  | char c => Regex.escape [c]
  | anyRun => ['.', '*']
  | start => ['^']
  | finish => ['$']

/-- The flags that like patterns are read under. -/
def flags : Flags := { insensitive := true }

def regex : Sign → Regex
  | char c => literal flags c
  | anyRun => .repeated (.set (.compl (.single '\n'))) 0 none
  | start => .look .textStart
  | finish => .look .textEnd

def item (s : Sign) : Item :=
  ⟨some s.regex, match s with
    | anyRun => 1
    | _ => 0⟩

end Sign

/-- The signs of the literal parts between the runs. -/
def signsOf (parts : List Char × List (List Char)) : List Sign :=
  parts.1.map .char ++ parts.2.flatMap fun s => .anyRun :: s.map .char

/-- All signs of a pattern. -/
def signs (s : List Char) : List Sign :=
  let parts := segments (tokens s)
  let openStart := parts.1.isEmpty && !parts.2.isEmpty
  let openEnd := match parts.2.getLast? with
    | some last => last.isEmpty
    | none => false
  (if openStart then [] else [.start]) ++ signsOf parts ++ (if openEnd then [] else [.finish])

theorem flatMap_text_char (s : List Char) : (s.map Sign.char).flatMap Sign.text = Regex.escape s := by
  induction s with
  | nil => rfl
  | cons c rest ih =>
    rw [List.map_cons, List.flatMap_cons, ih, Sign.text, escape, escape, escape, List.flatMap_singleton,
      List.flatMap_cons]

theorem source_eq (s : List Char) : source s = (signs s).flatMap Sign.text := by
  have hbody : ∀ parts, body parts = (signsOf parts).flatMap Sign.text := by
    rintro ⟨first, later⟩
    rw [body, signsOf, List.flatMap_append, flatMap_text_char]
    congr 1
    induction later with
    | nil => rfl
    | cons s rest ih =>
      rw [List.flatMap_cons, List.flatMap_cons, List.flatMap_append, ih, List.flatMap_cons, flatMap_text_char]
      rfl
  have hend : ∀ (isOpen : Bool) (s : Sign),
      (if isOpen then [] else s.text) = (if isOpen then [] else [s]).flatMap Sign.text := by
    intro isOpen s
    cases isOpen with
    | true => rfl
    | false => exact (List.flatMap_singleton Sign.text s).symm
  rw [source, signs, List.flatMap_append, List.flatMap_append, ← hbody, ← hend, ← hend]
  rfl

/-! ## Reading signs -/

/-- How often the reader goes on while it reads a sign. -/
def Sign.steps : Sign → Nat
  | anyRun => 2
  | _ => 1

theorem Sign.steps_le (s : Sign) : s.steps ≤ s.text.length := by
  cases s with
  | char c =>
    rw [text, escape, List.flatMap_singleton]
    split <;> simp [steps]
  | _ => exact Nat.le_refl _

/-- No sign looks like a question mark, which would change the repetition before it. -/
theorem dropLazy_text (signs : List Sign) : dropLazy (signs.flatMap Sign.text) = signs.flatMap Sign.text := by
  have hcons : ∀ c rest, c ≠ '?' → dropLazy (c :: rest) = c :: rest := by
    intro c rest hc
    rw [dropLazy.eq_def]
    split
    · rename_i heq
      injection heq with heq
      exact absurd heq hc
    · rfl
  cases signs with
  | nil => rfl
  | cons s rest =>
    cases s with
    | char c =>
      rw [List.flatMap_cons, Sign.text, escape, List.flatMap_singleton]
      split
      · exact hcons _ _ (by decide)
      · rename_i hm
        refine hcons _ _ ?_
        rintro rfl
        exact hm (by decide)
    | _ => exact hcons _ _ (by decide)

theorem readEscape_of_isMeta {c : Char} (h : isMeta c = true) (f : Flags) (rest : List Char) :
    readEscape f (c :: rest) = some (.char c, rest) := by
  have hc : c ∈ metaCharacters := List.contains_iff_mem.1 h
  simp only [metaCharacters, List.mem_cons, List.not_mem_nil, or_false] at hc
  rcases hc with rfl | rfl | rfl | rfl | rfl | rfl | rfl | rfl | rfl | rfl | rfl | rfl | rfl | rfl | rfl | rfl |
    rfl | rfl <;> rfl

theorem readSign_of_not_isMeta {c : Char} (h : isMeta c = false) (st : State) (rest : List Char) :
    readSign st c rest = some (st.push (literal st.flags c) 0, rest) := by
  rw [readSign.eq_def]
  split <;> first | rfl | exact absurd h (by decide)

theorem readFrom_cons {st next : State} (h : st.flags.extended = false) {c : Char} {rest later : List Char}
    (hs : readSign st c rest = some (next, later)) (n : Nat) :
    readFrom (n + 1) st (c :: rest) = readFrom n next later := by
  rw [readFrom, skip, h, if_neg Bool.false_ne_true]
  dsimp only
  rw [hs]

/-- One sign is one item. -/
theorem readFrom_sign (s : Sign) {st : State} (h : st.flags = Sign.flags) {rest : List Char}
    (hr : dropLazy rest = rest) (n : Nat) :
    readFrom (n + s.steps) st (s.text ++ rest) = readFrom n { st with items := s.item :: st.items } rest := by
  obtain ⟨flags, alternatives, items, stack, names⟩ := st
  cases h
  cases s with
  | char c =>
    rw [Sign.text, escape, List.flatMap_singleton]
    split
    · rename_i hm
      refine readFrom_cons rfl ?_ n
      show (readEscape Sign.flags (c :: rest) >>= _) = _
      rw [readEscape_of_isMeta hm]
      rfl
    · rename_i hm
      exact readFrom_cons rfl (readSign_of_not_isMeta (Bool.eq_false_iff.2 hm) _ rest) n
  | anyRun =>
    refine (readFrom_cons rfl rfl (n + 1)).trans (readFrom_cons rfl ?_ n)
    show some (_, dropLazy rest) = _
    rw [hr]
    rfl
  | start => exact readFrom_cons rfl rfl n
  | finish => exact readFrom_cons rfl rfl n

/-- The signs are read one by one. -/
theorem readFrom_text (signs : List Sign) {st : State} (h : st.flags = Sign.flags) (n : Nat) :
    readFrom (n + (signs.map Sign.steps).sum) st (signs.flatMap Sign.text) =
      readFrom n { st with items := (signs.map Sign.item).reverse ++ st.items } [] := by
  induction signs generalizing st with
  | nil => rfl
  | cons s rest ih =>
    rw [List.map_cons, List.sum_cons, Nat.add_comm s.steps, ← Nat.add_assoc, List.flatMap_cons,
      readFrom_sign s h (dropLazy_text rest), @ih { st with items := s.item :: st.items } h, List.map_cons,
      List.reverse_cons, List.append_assoc]
    rfl

/-! ## Compiling -/

theorem sum_steps_le (signs : List Sign) : (signs.map Sign.steps).sum ≤ (signs.flatMap Sign.text).length := by
  induction signs with
  | nil => exact Nat.le_refl _
  | cons s rest ih =>
    rw [List.map_cons, List.sum_cons, List.flatMap_cons, List.length_append]
    exact Nat.add_le_add s.steps_le ih

/-- Items of little depth make a construct of little depth. -/
theorem nestOf_le {ns : List Nat} {k : Nat} (h : ∀ n ∈ ns, n ≤ k) : nestOf ns ≤ k + 1 := by
  have hmax : ∀ m, m ≤ k → ns.foldl max m ≤ k := by
    induction ns with
    | nil => exact fun m hm => hm
    | cons n rest ih =>
      obtain ⟨hn, hr⟩ := List.forall_mem_cons.1 h
      exact fun m hm => ih hr (max m n) (Nat.max_le.2 ⟨hm, hn⟩)
  rw [nestOf.eq_def]
  split
  · exact Nat.zero_le _
  · exact Nat.le_succ_of_le (h _ List.mem_cons_self)
  · exact Nat.succ_le_succ (hmax 0 (Nat.zero_le k))

/-- What the reader makes of the signs behind the flag that case does not count. -/
theorem alternation_signs (signs : List Sign) :
    ∃ nest, nest ≤ nestLimit ∧
      State.alternation { flags := Sign.flags, items := (signs.map Sign.item).reverse ++ [⟨none, 0⟩] } =
        ⟨some (Regex.ofList (signs.map Sign.regex)), nest⟩ := by
  have hregexes : (⟨none, 0⟩ :: signs.map Sign.item).filterMap (·.regex) = signs.map Sign.regex := by
    rw [List.filterMap_cons_none rfl, List.filterMap_map]
    exact congrFun (List.filterMap_eq_map (f := Sign.regex)) signs
  have hnests : nestOf ((⟨none, 0⟩ :: signs.map Sign.item).map (·.nest)) ≤ 2 := by
    refine nestOf_le fun n hn => ?_
    obtain ⟨item, hitem, rfl⟩ := List.mem_map.1 hn
    rcases List.mem_cons.1 hitem with rfl | hitem
    · exact Nat.zero_le 1
    · obtain ⟨s, -, rfl⟩ := List.mem_map.1 hitem
      cases s <;> simp [Sign.item]
  have hsequence : Item.ofList Regex.ofList (⟨none, 0⟩ :: signs.map Sign.item) =
      ⟨some (Regex.ofList (signs.map Sign.regex)), nestOf ((⟨none, 0⟩ :: signs.map Sign.item).map (·.nest))⟩ := by
    rw [Item.ofList, hregexes]
  refine ⟨_, Nat.le_trans hnests (by decide), ?_⟩
  rw [State.alternation, State.sequence, List.reverse_append, List.reverse_reverse]
  show Item.ofList ofAlternatives [Item.ofList Regex.ofList (⟨none, 0⟩ :: signs.map Sign.item)] = _
  rw [hsequence]
  rfl

/-- Every like pattern is an expression: the sequence of its signs. -/
theorem parse?_toPattern (s : String) :
    parse? (toPattern s).fullSource = some (Regex.ofList ((signs s.toList).map Sign.regex)) := by
  have hfull : (toPattern s).fullSource = '(' :: '?' :: 'i' :: ')' :: (signs s.toList).flatMap Sign.text := by
    have hletters : (toPattern s).flagLetters = ['i'] := by
      simp [Pattern.flagLetters, toPattern]
    rw [Pattern.fullSource, hletters, ← source_eq, toPattern, String.toList_ofList]
    rfl
  obtain ⟨k, hk⟩ := Nat.exists_eq_add_of_le (sum_steps_le (signs s.toList))
  have hread : readFrom ((toPattern s).fullSource.length + 1) {} (toPattern s).fullSource =
      some (State.alternation
        { flags := Sign.flags, items := ((signs s.toList).map Sign.item).reverse ++ [⟨none, 0⟩] }) := by
    rw [hfull]
    have hfuel : ('(' :: '?' :: 'i' :: ')' :: (signs s.toList).flatMap Sign.text).length + 1 =
        (k + 3 + 1) + ((signs s.toList).map Sign.steps).sum + 1 := by
      simp only [List.length_cons]
      omega
    have hflags : readSign {} '(' ('?' :: 'i' :: ')' :: (signs s.toList).flatMap Sign.text) =
        some ({ flags := Sign.flags, items := [⟨none, 0⟩] }, (signs s.toList).flatMap Sign.text) := rfl
    rw [hfuel, readFrom_cons rfl hflags, readFrom_text _ rfl]
    rfl
  obtain ⟨nest, hn, halternation⟩ := alternation_signs (signs s.toList)
  rw [parse?, hread, halternation]
  exact if_pos hn

/-! ## Room -/

/-- The machines for the expression of a pattern have room. -/
def HasRoom (s : String) : Prop := ∀ r, parse? (toPattern s).fullSource = some r → r.fits = true

/-- Room is all that a like pattern needs to compile. -/
theorem compile?_toPattern {s : String} (h : HasRoom s) :
    (toPattern s).compile? = some (Regex.ofList ((signs s.toList).map Sign.regex)) := by
  have hfits := h _ (parse?_toPattern s)
  rw [Pattern.compile?, parse?_toPattern, Option.filter_some, hfits]
  rfl

theorem weight_ofList_le {rs : List Regex} {k : Nat} (h : ∀ r ∈ rs, r.weight ≤ k) :
    (Regex.ofList rs).weight ≤ k * rs.length + 1 := by
  induction rs with
  | nil => exact Nat.le_refl 1
  | cons r rest ih =>
    obtain ⟨hr, hrest⟩ := List.forall_mem_cons.1 h
    cases rest with
    | nil =>
      show r.weight ≤ k * 1 + 1
      omega
    | cons r' rest =>
      have hlater := ih hrest
      show r.weight + (Regex.ofList (r' :: rest)).weight ≤ k * ((r' :: rest).length + 1) + 1
      rw [Nat.mul_succ]
      omega

theorem Sign.weight_regex_le (s : Sign) : s.regex.weight ≤ 8 := by
  cases s with
  | char c =>
    -- A character that is folded stands for itself and at most three others.
    show 1 + min (3 * (c.toNat + 1 - c.toNat)) _ + 4 ≤ 8
    omega
  | anyRun => decide
  | start => decide
  | finish => decide

theorem length_tokens_le (s : List Char) : (tokens s).length ≤ s.length := by
  fun_induction tokens s with
  | case1 rest ih =>
    rw [List.length_cons, List.length_cons, List.length_cons]
    omega
  | case2 rest ih => exact Nat.succ_le_succ ih
  | case3 c rest _ _ ih => exact Nat.succ_le_succ ih
  | case4 => exact Nat.le_refl 0

/-- The sign that a token is written as. -/
def Token.sign : Token → Sign
  | .char c => .char c
  | .anyRun => .anyRun

theorem signsOf_segments (ts : List Token) : signsOf (segments ts) = ts.map Token.sign := by
  induction ts with
  | nil => rfl
  | cons t rest ih =>
    rw [List.map_cons, ← ih]
    cases t with
    | char c => rfl
    | anyRun =>
      show (([] : List Char).map Sign.char ++ ((segments rest).1 :: (segments rest).2).flatMap fun s =>
        Sign.anyRun :: s.map Sign.char) = _
      rw [List.flatMap_cons]
      rfl

theorem length_signs_le (s : List Char) : (signs s).length ≤ s.length + 2 := by
  have hends : ∀ (isOpen : Bool) (sign : Sign), (if isOpen then [] else [sign]).length ≤ 1 := by
    intro isOpen sign
    cases isOpen <;> simp
  have htokens := length_tokens_le s
  rw [signs, List.length_append, List.length_append, signsOf_segments, List.length_map]
  refine Nat.le_trans (Nat.add_le_add (Nat.add_le_add_right (hends _ _) _) (hends _ _)) ?_
  omega

/-- A pattern of up to a thousand characters has room. -/
theorem hasRoom_of_length {s : String} (h : s.toList.length ≤ 1000) : HasRoom s := by
  intro r hr
  rw [parse?_toPattern] at hr
  cases hr
  have hsigns : ∀ r ∈ (signs s.toList).map Sign.regex, r.weight ≤ 8 := by
    intro r hr
    obtain ⟨sign, -, rfl⟩ := List.mem_map.1 hr
    exact sign.weight_regex_le
  have hweight := weight_ofList_le hsigns
  have hlength := length_signs_le s.toList
  rw [List.length_map] at hweight
  have hlimit : Machine.limit = 10240 * Machine.rangeRoom := by decide
  rw [fits, if_pos]
  rw [hlimit]
  exact Nat.mul_le_mul_right _ (by omega)

end Like

end DocQuery
