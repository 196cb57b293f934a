import DocQuery.Proofs.DateParts
import DocQuery.Proofs.Overflows
import DocQuery.Proofs.Selects
import DocQuery.Proofs.Writing

/-!
# Counters in documents

A field that holds an integer is a counter: each increment writes the sum at the path where it read the integer.

    incremented m n = narrowest (m + n)                        where 64 bits hold it     (incremented_integers)
    the update leaves set d p (narrowest (m + n))                                        (updateOne_increment)
    the call leaves that in the place of the selected document, and all else as it was   (Adjustment.run_ok)

So a run of calls, each by a client of its own, adds up, in whatever order they come (`Adjustment.total_of_run`).
-/

namespace DocQuery

open Outcome

/-! ## Integers -/

namespace Value

/-- An integer in its narrowest kind. -/
def narrowest (n : Int) : Value :=
  if -2 ^ 31 ≤ n ∧ n < 2 ^ 31 then .int32 (Int32.ofInt n) else .int64 (Int64.ofInt n)

variable {a b : Value} {m n : Int}

theorem not_beyond_of_integer (h : a.integer? = some m) : ¬ Beyond m := by
  unfold Beyond
  cases a with
  | int32 k =>
    cases h
    have hlow := k.le_toInt
    have hhigh := k.toInt_lt
    omega
  | int64 k =>
    cases h
    have hlow := k.le_toInt
    have hhigh := k.toInt_lt
    omega
  | _ => cases h

theorem toInt_ofInt_of_not_beyond (h : ¬ Beyond n) : (Int64.ofInt n).toInt = n := by
  unfold Beyond at h
  exact Int64.toInt_ofInt_of_le (by omega) (by omega)

theorem ofInt64_ofInt (h : ¬ Beyond n) : ofInt64 (Int64.ofInt n) = narrowest n := by
  have hlow : Int32.minValue.toInt = -2 ^ 31 := rfl
  have hhigh : Int32.maxValue.toInt = 2 ^ 31 - 1 := rfl
  rw [ofInt64, narrowest, toInt_ofInt_of_not_beyond h, hlow, hhigh]
  by_cases hn : -2 ^ 31 ≤ n ∧ n < 2 ^ 31
  · rw [if_pos hn, if_pos ⟨hn.1, by omega⟩]
  · rw [if_neg hn, if_neg fun hle => hn ⟨hle.1, by omega⟩]

theorem integer?_narrowest (h : ¬ Beyond n) : (narrowest n).integer? = some n := by
  rw [← ofInt64_ofInt h, DateValue.integer?_ofInt64, toInt_ofInt_of_not_beyond h]

/-- There is nothing below an integer. -/
theorem step_integer (h : a.integer? = some m) (name : String) : Path.step name a = none := by
  cases a <;> first | rfl | cases h

theorem eq_of_same_integer (h : a.integer? = some m) (hs : same a b = true) : a = b := by
  cases a with
  | int32 k =>
    cases b with
    | int32 l => exact congrArg int32 (eq_of_beq hs)
    | _ => cases hs
  | int64 k =>
    cases b with
    | int64 l => exact congrArg int64 (eq_of_beq hs)
    | _ => cases hs
  | _ => cases h

theorem isNumeric_of_integer (h : a.integer? = some m) : a.isNumeric = true := by
  cases a <;> first | rfl | cases h

theorem isDouble_of_integer (h : a.integer? = some m) : a.isDouble = false := by
  cases a <;> first | rfl | cases h

theorem toInt64?_of_integer (h : a.integer? = some m) : a.toInt64? = some (Int64.ofInt m) := by
  rw [Arithmetic.toInt64?_eq_iff_of_integral (isDouble_of_integer h), h,
    toInt_ofInt_of_not_beyond (not_beyond_of_integer h)]

end Value

open Value

/-! ## Updates -/

namespace Update

variable {current amount v : Value} {m n : Int} {d : Document} {column : String}

/-- Two integers add up where 64 bits hold their sum. -/
theorem incremented_integers (hm : current.integer? = some m) (hn : amount.integer? = some n)
    (hfit : ¬ Beyond (m + n)) : incremented current amount = narrowest (m + n) := by
  unfold incremented
  rw [isDouble_of_integer hm, isDouble_of_integer hn, toInt64?_of_integer hm, toInt64?_of_integer hn]
  dsimp only
  rw [toInt_ofInt_of_not_beyond (not_beyond_of_integer hm), toInt_ofInt_of_not_beyond (not_beyond_of_integer hn),
    Arithmetic.fit?_of_not_beyond hfit, ← ofInt64_ofInt hfit]
  rfl

/-- An increment writes the sum where it read the integer. -/
theorem increment_integers (hl : Path.Leads d (Path.parse column) v) (hm : v.integer? = some m)
    (hn : amount.integer? = some n) (hfit : ¬ Beyond (m + n)) :
    increment d column amount = lift (Path.set d (Path.parse column) (narrowest (m + n))) := by
  rw [increment, hl.resolve, isNumeric_of_integer hn]
  cases v with
  | int32 k =>
    show lift (Path.set d _ (incremented (.int32 k) amount)) = _
    rw [incremented_integers hm hn hfit]
  | int64 k =>
    show lift (Path.set d _ (incremented (.int64 k) amount)) = _
    rw [incremented_integers hm hn hfit]
  | _ => cases hm

/-- A document that is the same with the sum written is the document as it was. -/
theorem eq_of_sameDocument {e : Document} (hl : Path.Leads d (Path.parse column) v)
    (he : Path.set d (Path.parse column) (narrowest m) = .ok e) (hm : ¬ Beyond m) (hs : sameDocument e d = true) :
    e = d := by
  have hsame : same (narrowest m) v = true := hl.same (Path.leads_set he) hs
  rw [eq_of_same_integer (integer?_narrowest hm) hsame, hl.set_self] at he
  exact (Except.ok.inj he).symm

end Update

namespace Store

variable {v amount : Value} {m n : Int} {d : Document} {column : String}

/-- The document that an increment selects holds the sum then. -/
theorem updateOne_increment {filter : Document} (hid : (Path.parse column).head ≠ "_id")
    (ha : Filter.accepts filter d = .ok true) (hl : Path.Leads d (Path.parse column) v) (hm : v.integer? = some m)
    (hn : amount.integer? = some n) (hfit : ¬ Beyond (m + n)) :
    ∃ e k, Path.set d (Path.parse column) (narrowest (m + n)) = .ok e ∧
      updateOne filter (Builder.incrementUpdate column amount []) d = .ok (e, ⟨1, k⟩) := by
  obtain ⟨e, he⟩ := hl.set (narrowest (m + n))
  have hfield : Update.applyField "$inc" d (column, amount) = .ok e := by
    rw [Update.applyField, if_neg hid]
    show Update.increment d column amount = _
    rw [Update.increment_integers hl hm hn hfit, he]
    rfl
  have hchanged : Update.changed? d (Builder.incrementUpdate column amount []) = .ok (Update.reported d e) := by
    show Update.changed? d [("$inc", .document [(column, amount)])] = _
    rw [Update.changed?_field, hfield]
    rfl
  rw [updateOne, ha]
  show ∃ e k, _ ∧ (Update.changed? d _ >>= _) = _
  rw [hchanged, Update.reported]
  by_cases hs : sameDocument e d = true
  · obtain rfl := Update.eq_of_sameDocument hl he hfit hs
    exact ⟨e, 0, he, by rw [if_pos hs]; rfl⟩
  · exact ⟨e, 1, he, by rw [if_neg hs]; rfl⟩

/-- The filter holds of the document at one place and of no other one. -/
def Selects (filter : Document) (docs : List Document) (i : Nat) : Prop :=
  ∀ j d, docs[j]? = some d → Filter.accepts filter d = .ok (j = i)

theorem traverse_of_selects {filter update e : Document} {docs : List Document} {i k : Nat} (hd : docs[i]? = some d)
    (hs : Selects filter docs i) (hu : updateOne filter update d = .ok (e, ⟨1, k⟩)) :
    ∃ entries, Outcome.traverse (updateOne filter update) docs = .ok entries ∧
      entries.map Prod.fst = docs.set i e := by
  let changed (x : Document) : Document × UpdateCount :=
    if Filter.accepts filter x = .ok true then (e, ⟨1, k⟩) else (x, ⟨0, 0⟩)
  have hone : ∀ x ∈ docs, updateOne filter update x = .ok (changed x) := by
    intro x hx
    obtain ⟨j, hj⟩ := List.getElem?_of_mem hx
    have hx' := hs j x hj
    by_cases hji : j = i
    · subst hji
      cases hd.symm.trans hj
      rw [hu]
      simp [changed, hx']
    · rw [updateOne]
      simp only [changed, hx', hji, decide_false]
      rfl
  refine ⟨docs.map changed, traverse_eq_map hone, List.ext_getElem? fun j => ?_⟩
  rw [List.map_map, List.getElem?_map, List.getElem?_set]
  cases hj : docs[j]? with
  | none =>
    have hji : i ≠ j := by
      rintro rfl
      rw [hd] at hj
      cases hj
    rw [if_neg hji]
    rfl
  | some x =>
    have hlt := (List.getElem?_eq_some_iff.1 hj).1
    have hx := hs j x hj
    by_cases hji : i = j
    · subst hji
      simp [changed, hx, hlt]
    · simp [changed, hx, hji, Ne.symm hji]

/-- An update of one document leaves the others as they are. -/
theorem updateMany_of_selects {s : Store} (hp : s.poisoned = false) {name : String} {filter update e : Document}
    {i k : Nat} (hd : (s.documents name)[i]? = some d) (hs : Selects filter (s.documents name) i)
    (hu : updateOne filter update d = .ok (e, ⟨1, k⟩)) :
    ∃ count, s.updateMany name filter update = .ok (s.replace name ((s.documents name).set i e), count) := by
  rw [updateMany, s.checkOpen_eq_ok_iff.2 hp]
  cases hc : s.collection? name with
  | none =>
    rw [documents, hc] at hd
    cases hd
  | some docs =>
    have hdocs : s.documents name = docs := by rw [documents, hc]; rfl
    rw [hdocs] at hd hs ⊢
    obtain ⟨entries, hentries, hset⟩ := traverse_of_selects hd hs hu
    refine ⟨UpdateCount.sum (entries.map Prod.snd), ?_⟩
    show (Outcome.traverse (updateOne filter update) docs >>= _) = _
    rw [hentries, ← hset]
    rfl

end Store

/-! ## Calls -/

namespace Deployment

variable {dep : Deployment} {handle : Nat} {name : String} {filter update d e : Document} {i k : Nat}

theorem perform_updateMany_of_selects (ho : dep.Open handle) (hd : (dep.documents handle name)[i]? = some d)
    (hs : Store.Selects filter (dep.documents handle name) i)
    (hu : Store.updateOne filter update d = .ok (e, ⟨1, k⟩)) :
    ∃ count later, dep.perform handle (.updateMany name filter update) = (.ok (.updated count), later) ∧
      later.Open handle ∧ ∀ h n, later.documents h n =
        if h = handle ∧ n = name then (dep.documents h n).set i e else dep.documents h n := by
  obtain ⟨s, hb, hp⟩ := ho
  rw [documents_of_backend hb] at hd hs
  obtain ⟨count, hupdate⟩ := Store.updateMany_of_selects hp hd hs hu
  have hperform : s.perform dep.supply (.updateMany name filter update) =
      (.ok (.updated count), s.replace name ((s.documents name).set i e), dep.supply) := by
    rw [Store.perform.eq_def, Store.answer, hupdate]
    rfl
  refine ⟨count, ⟨dep.backends.set handle (.memory (s.replace name ((s.documents name).set i e))), dep.supply⟩, ?_, ?_,
    fun h n => ?_⟩
  · rw [perform, hb]
    dsimp only
    rw [hperform]
  · obtain ⟨hlt, -⟩ := List.getElem?_eq_some_iff.1 hb
    exact ⟨_, List.getElem?_set_self hlt, hp⟩
  · rw [documents_set hb]
    by_cases hh : h = handle
    · subst hh
      rw [if_pos rfl, Store.documents_replace, documents_of_backend hb]
      by_cases hn : n = name
      · subst hn
        rw [if_pos rfl, if_pos ⟨rfl, rfl⟩]
      · rw [if_neg hn, if_neg fun h => hn h.2]
    · rw [if_neg hh, if_neg fun h' => hh h'.1]

end Deployment

namespace Builder

theorem isAmount_of_integer {amount : Value} {n : Int} (h : amount.integer? = some n) : isAmount amount = true := by
  cases amount <;> first | rfl | cases h

/-- The negative of an integer; the least one of 64 bits has none. -/
theorem integer?_negated {amount : Value} {n : Int} (h : amount.integer? = some n)
    (hmin : amount ≠ .int64 Int64.minValue) : (negated amount).integer? = some (-n) := by
  cases amount with
  | int32 k =>
    cases h
    have hlow := k.le_toInt
    have hhigh := k.toInt_lt
    rw [negated]
    by_cases hk : k = Int32.minValue
    · rw [if_pos hk]
      exact congrArg some (Int64.toInt_ofInt_of_le (by omega) (by omega))
    · have hne : k.toInt ≠ -2 ^ 31 := fun hm => hk (Int32.toInt.inj hm)
      rw [if_neg hk]
      show some (-k).toInt = _
      rw [Int32.toInt_neg, Int.bmod_eq_of_le_mul_two (by omega) (by omega)]
  | int64 k =>
    cases h
    have hlow := k.le_toInt
    have hhigh := k.toInt_lt
    have hk : k ≠ Int64.minValue := fun hk => hmin (congrArg Value.int64 hk)
    have hne : k.toInt ≠ -2 ^ 63 := fun hm => hk (Int64.toInt.inj hm)
    rw [negated, if_neg hk]
    show some (-k).toInt = _
    rw [Int64.toInt_neg, Int.bmod_eq_of_le_mul_two (by omega) (by omega)]
  | _ => cases h

theorem updateDocument_incrementUpdate (column : String) (amount : Value) :
    Query.updateDocument (incrementUpdate column amount []) = .ok (incrementUpdate column amount []) := by
  have hname : Query.isOperatorName "$inc" = true := by decide
  simp [Query.updateDocument, incrementUpdate, Document.keys, hname]

/-- An increment whose query has a filter hands over one update. -/
theorem increment_on {b : Builder} {filter : Document} (hf : b.query.filter = .ok filter) {amount : Value}
    (ha : isAmount amount = true) (column : String) (s : Session) :
    (b.increment column amount []).on s = (Session.affecting (.updateMany b.query.collection filter
      (incrementUpdate column amount []))).on s := by
  have hcompile : (Request.update b.query (incrementUpdate column amount [])).compile =
      .ok (.updateMany b.query.collection filter (incrementUpdate column amount [])) := by
    show (b.query.filter >>= fun filter => Query.updateDocument _ >>= fun update => _) = _
    rw [hf, updateDocument_incrementUpdate]
    rfl
  rw [increment, if_pos ha, update, changing, hcompile]
  exact Action.on_bind_of_ok (Session.compiled_ok_on _ s) _

end Builder

/-- A call that adds to a column or takes off it, by a client on its own connection. -/
structure Adjustment where
  connection : Connection
  metrics : Metrics
  builder : Builder
  amount : Value
  /-- Whether the amount is taken off. -/
  down : Bool

namespace Adjustment

def terminal (c : Adjustment) (column : String) : Terminal :=
  if c.down then .decrement column c.amount [] else .increment column c.amount []

/-- What the call gives, and what it leaves behind the handles. -/
def run (column : String) (c : Adjustment) (dep : Deployment) : Except Fault Answer × Deployment :=
  let (answer, s) := ((c.terminal column).run c.builder).on ⟨c.connection, dep, c.metrics⟩
  (answer, s.deployment)

/-- The calls one after the other, whosever they are. -/
def runAll (column : String) : List Adjustment → Deployment → List (Except Fault Answer) × Deployment
  | [], dep => ([], dep)
  | c :: rest, dep =>
    let (answer, next) := c.run column dep
    let (answers, last) := runAll column rest next
    (answer :: answers, last)

/-- The integer that the call adds. -/
def delta (c : Adjustment) : Int :=
  let n := c.amount.integer?.getD 0
  if c.down then -n else n

/-- The amount is an integer, and one that has a negative where it is taken off. -/
structure Integral (c : Adjustment) : Prop where
  amount : ∃ n, c.amount.integer? = some n
  negative : c.down = true → c.amount ≠ .int64 Int64.minValue

/-- The call is sent, and selects the document at one place of a collection. -/
structure Ready (handle : Nat) (name : String) (i : Nat) (dep : Deployment) (c : Adjustment) : Prop where
  sent : c.connection.pretending = false
  write_eq : c.connection.write = handle
  collection_eq : c.builder.query.collection = name
  selects : ∃ filter, c.builder.query.filter = .ok filter ∧ Store.Selects filter (dep.documents handle name) i

/-- Every call is ready when its turn comes. -/
def AllReady (column : String) (handle : Nat) (name : String) (i : Nat) : List Adjustment → Deployment → Prop
  | [], _ => True
  | c :: rest, dep => c.Ready handle name i dep ∧ AllReady column handle name i rest (c.run column dep).2

/-- What is handed to the increment. -/
def added (c : Adjustment) : Value := if c.down then Builder.negated c.amount else c.amount

theorem integer?_added {c : Adjustment} (h : c.Integral) : c.added.integer? = some c.delta := by
  obtain ⟨n, hn⟩ := h.amount
  rw [added, delta, hn]
  cases hd : c.down with
  | true => exact Builder.integer?_negated hn (h.negative hd)
  | false => exact hn

theorem run_terminal (c : Adjustment) (column : String) :
    (c.terminal column).run c.builder = Answer.count <$> c.builder.increment column c.added [] := by
  unfold terminal added
  cases c.down <;> rfl

section

variable {column : String} {handle : Nat} {name : String} {i : Nat} {dep : Deployment} {d : Document} {v : Value}
  {m : Int}

/-- A call that is ready writes the sum in the selected document, and nothing else. -/
theorem run_ok {c : Adjustment} (hc : c.Ready handle name i dep) (hi : c.Integral) (ho : dep.Open handle)
    (hd : (dep.documents handle name)[i]? = some d) (hid : (Path.parse column).head ≠ "_id")
    (hl : Path.Leads d (Path.parse column) v) (hm : v.integer? = some m) (hfit : ¬ Beyond (m + c.delta)) :
    ∃ n e, (c.run column dep).1 = .ok (.count n) ∧
      Path.set d (Path.parse column) (narrowest (m + c.delta)) = .ok e ∧ (c.run column dep).2.Open handle ∧
      ∀ h n, (c.run column dep).2.documents h n =
        if h = handle ∧ n = name then (dep.documents h n).set i e else dep.documents h n := by
  obtain ⟨hsent, rfl, rfl, filter, hf, hs⟩ := hc
  have hadded := integer?_added hi
  have hselected : Filter.accepts filter d = .ok true := by
    rw [hs i d hd, decide_eq_true rfl]
  obtain ⟨e, k, he, hu⟩ := Store.updateOne_increment hid hselected hl hm hadded hfit
  obtain ⟨count, later, hperform, hopen, hlater⟩ := Deployment.perform_updateMany_of_selects ho hd hs hu
  have hrun : c.run column dep = (.ok (.count (StoreReply.updated count).toOutput.toCount), later) := by
    rw [run, run_terminal, Action.on_map, Builder.increment_on hf (Builder.isAmount_of_integer hadded),
      Session.affecting_on, hsent, if_neg Bool.false_ne_true, Session.send_on, Statement.toCall, hperform]
    rfl
  rw [hrun]
  exact ⟨_, e, rfl, he, hopen, hlater⟩

/-- Calls that are ready when their turn comes add up, as long as 64 bits hold the sums. -/
theorem runAll_ok {calls : List Adjustment} (ho : dep.Open handle) (hd : (dep.documents handle name)[i]? = some d)
    (hid : (Path.parse column).head ≠ "_id") (hl : Path.Leads d (Path.parse column) v) (hm : v.integer? = some m)
    (hi : ∀ c ∈ calls, c.Integral) (hr : AllReady column handle name i calls dep)
    (hfit : ∀ k, ¬ Beyond (m + ((calls.take k).map delta).sum)) :
    ∃ e, Path.set d (Path.parse column) (if calls = [] then v else narrowest (m + (calls.map delta).sum)) = .ok e ∧
      (∀ a ∈ (runAll column calls dep).1, ∃ n, a = .ok (.count n)) ∧
      ∀ h n, (runAll column calls dep).2.documents h n =
        if h = handle ∧ n = name then (dep.documents h n).set i e else dep.documents h n := by
  induction calls generalizing dep d v m with
  | nil =>
    refine ⟨d, hl.set_self, nofun, fun h n => ?_⟩
    show dep.documents h n = _
    by_cases hat : h = handle ∧ n = name
    · obtain ⟨rfl, rfl⟩ := hat
      obtain ⟨hlt, hget⟩ := List.getElem?_eq_some_iff.1 hd
      rw [if_pos ⟨rfl, rfl⟩, ← hget, List.set_getElem_self]
    · rw [if_neg hat]
  | cons c rest ih =>
    obtain ⟨hc, hrest⟩ := hr
    obtain ⟨hic, hirest⟩ := List.forall_mem_cons.1 hi
    have hfirst : ¬ Beyond (m + c.delta) := by simpa using hfit 1
    obtain ⟨count, e, hanswer, he, hopen, hdocs⟩ := run_ok hc hic ho hd hid hl hm hfirst
    have hnext : ((c.run column dep).2.documents handle name)[i]? = some e := by
      obtain ⟨hlt, -⟩ := List.getElem?_eq_some_iff.1 hd
      rw [hdocs, if_pos ⟨rfl, rfl⟩, List.getElem?_set_self hlt]
    have hlater : ∀ k, ¬ Beyond (m + c.delta + ((rest.take k).map delta).sum) := fun k => by
      simpa [Int.add_assoc] using hfit (k + 1)
    obtain ⟨last, hlast, hanswers, hfinal⟩ :=
      ih hopen hnext (Path.leads_set he) (integer?_narrowest hfirst) hirest hrest hlater
    refine ⟨last, ?_, ?_, fun h n => ?_⟩
    · rw [Path.set_set he] at hlast
      rw [if_neg (List.cons_ne_nil c rest), ← hlast, List.map_cons, List.sum_cons, ← Int.add_assoc]
      congr 1
      by_cases hn : rest = []
      · subst hn
        simp
      · rw [if_neg hn]
    · exact List.forall_mem_cons.2 ⟨⟨count, hanswer⟩, hanswers⟩
    · show (runAll column rest (c.run column dep).2).2.documents h n = _
      rw [hfinal, hdocs]
      by_cases hat : h = handle ∧ n = name
      · rw [if_pos hat, if_pos hat, if_pos hat, List.set_set]
      · rw [if_neg hat, if_neg hat, if_neg hat]

/-- Increments and decrements of a counter, by any clients and one after the other in any order, all succeed.  The
counter is the sum then, in its narrowest kind where there was a call at all; no path but those that run to the counter
sees a change, no other document has one, and any other order of the calls ends in the same documents. -/
theorem total_of_run {calls : List Adjustment} (ho : dep.Open handle) (hd : (dep.documents handle name)[i]? = some d)
    (hid : (Path.parse column).head ≠ "_id") (hl : Path.Leads d (Path.parse column) v) (hm : v.integer? = some m)
    (hi : ∀ c ∈ calls, c.Integral) (hr : AllReady column handle name i calls dep)
    (hfit : ∀ k, ¬ Beyond (m + ((calls.take k).map delta).sum)) :
    ∃ e, (∀ a ∈ (runAll column calls dep).1, ∃ n, a = .ok (.count n)) ∧
      Path.Leads e (Path.parse column) (if calls = [] then v else narrowest (m + (calls.map delta).sum)) ∧
      (∀ q : Path, ¬ q.IsPrefixOf (Path.parse column) → Path.resolve e q = Path.resolve d q) ∧
      (∀ h n, (runAll column calls dep).2.documents h n =
        if h = handle ∧ n = name then (dep.documents h n).set i e else dep.documents h n) ∧
      ∀ others : List Adjustment, others.Perm calls → AllReady column handle name i others dep →
        (∀ k, ¬ Beyond (m + ((others.take k).map delta).sum)) →
        ∀ h n, (runAll column others dep).2.documents h n = (runAll column calls dep).2.documents h n := by
  obtain ⟨e, he, hanswers, hdocs⟩ := runAll_ok ho hd hid hl hm hi hr hfit
  have hwritten : ∃ t, (if calls = [] then v else narrowest (m + (calls.map delta).sum)).integer? = some t := by
    have htotal : ¬ Beyond (m + (calls.map delta).sum) := by simpa using hfit calls.length
    split
    · exact ⟨m, hm⟩
    · exact ⟨_, integer?_narrowest htotal⟩
  obtain ⟨t, ht⟩ := hwritten
  refine ⟨e, hanswers, Path.leads_set he, fun q hq => ?_, hdocs, fun others hperm hr' hfit' h n => ?_⟩
  · exact hl.resolve_set (fun name => ⟨step_integer hm name, step_integer ht name⟩) he hq
  · obtain ⟨e', he', -, hdocs'⟩ := runAll_ok ho hd hid hl hm (fun c hc => hi c (hperm.mem_iff.1 hc)) hr' hfit'
    have hempty : others = [] ↔ calls = [] := by
      rw [← List.length_eq_zero_iff, hperm.length_eq, List.length_eq_zero_iff]
    rw [(hperm.map delta).sum_eq, if_congr hempty rfl rfl, he] at he'
    rw [hdocs, hdocs', Except.ok.inj he']

end

/-- Two clients and three calls, over the limits of 32 bits and back. -/
theorem total_of_run_two_clients :
    let d : Document := [("_id", .string "1"), ("s", .string "x"), ("a", .document [("n", .int64 5)])]
    let dep : Deployment := { backends := [.memory { collections := [("t", [d, [("_id", .string "2")]])] }] }
    let byId : Builder := (Builder.on "t").modify [.whereEq "_id" (.string "1")]
    let byField : Builder := (Builder.on "t").modify [.whereEq "s" (.string "x")]
    let one : Connection := { database := "app", write := 0 }
    let other : Connection := { database := "app", write := 0, read := some 1 }
    let first : Adjustment := ⟨one, {}, byId, .int32 2147483647, false⟩
    let second : Adjustment := ⟨other, {}, byField, .int32 Int32.minValue, true⟩
    let third : Adjustment := ⟨one, {}, byField, .int64 4294967299, true⟩
    let calls := [first, second, third]
    dep.Open 0 ∧ (dep.documents 0 "t")[0]? = some d ∧ (Path.parse "a.n").head ≠ "_id" ∧
      Path.Leads d (Path.parse "a.n") (.int64 5) ∧ (Value.int64 5).integer? = some 5 ∧ (∀ c ∈ calls, c.Integral) ∧
      AllReady "a.n" 0 "t" 0 calls dep ∧ (∀ k, ¬ Beyond (5 + ((calls.take k).map delta).sum)) ∧
      ∃ e, (∀ a ∈ (runAll "a.n" calls dep).1, ∃ n, a = .ok (.count n)) ∧
        Path.Leads e (Path.parse "a.n") (.int32 1) ∧ Path.resolve e (Path.parse "s") = some (.string "x") ∧
        (runAll "a.n" calls dep).2.documents 0 "t" = [e, [("_id", .string "2")]] := by
  intro d dep byId byField one other first second third calls
  have ho : dep.Open 0 := ⟨_, rfl, rfl⟩
  have hd : (dep.documents 0 "t")[0]? = some d := rfl
  have hid : (Path.parse "a.n").head ≠ "_id" := by decide
  have hl : Path.Leads d (Path.parse "a.n") (.int64 5) := .within rfl (.field rfl)
  have hm : (Value.int64 5).integer? = some 5 := rfl
  have hi : ∀ c ∈ calls, c.Integral := by
    have hmin : (4294967299 : Int64) ≠ Int64.minValue := by decide +kernel
    exact List.forall_mem_cons.2 ⟨⟨⟨_, rfl⟩, nofun⟩, List.forall_mem_cons.2 ⟨⟨⟨_, rfl⟩, nofun⟩,
      List.forall_mem_singleton.2 ⟨⟨_, rfl⟩, fun _ h => hmin (Value.int64.inj h)⟩⟩⟩
  have hselects : ∀ (f x y : Document), Filter.accepts f x = .ok true → Filter.accepts f y = .ok false →
      Store.Selects f [x, y] 0 := by
    intro f x y hx hy j z hz
    rcases j with _ | _ | j
    · cases hz
      exact hx
    · cases hz
      exact hy
    · cases hz
  have hsecond : (first.run "a.n" dep).2.documents 0 "t" =
      [[("_id", .string "1"), ("s", .string "x"), ("a", .document [("n", .int64 2147483652)])],
        [("_id", .string "2")]] := by
    dsimp only [first, one, byId, dep, d]
    rfl
  have hthird : (second.run "a.n" (first.run "a.n" dep).2).2.documents 0 "t" =
      [[("_id", .string "1"), ("s", .string "x"), ("a", .document [("n", .int64 4294967300)])],
        [("_id", .string "2")]] := by
    dsimp only [first, second, one, other, byId, byField, dep, d]
    rfl
  have hr : AllReady "a.n" 0 "t" 0 calls dep := by
    refine ⟨⟨rfl, rfl, rfl, [("_id", .string "1")], rfl, hselects _ _ _ rfl rfl⟩,
      ⟨rfl, rfl, rfl, [("s", .string "x")], rfl, ?_⟩, ⟨rfl, rfl, rfl, [("s", .string "x")], rfl, ?_⟩, trivial⟩
    · rw [hsecond]
      exact hselects _ _ _ rfl rfl
    · rw [hthird]
      exact hselects _ _ _ rfl rfl
  have hfit : ∀ k, ¬ Beyond (5 + ((calls.take k).map delta).sum) := by
    intro k
    unfold Beyond
    rcases k with _ | _ | _ | k
    · decide
    · decide
    · decide
    · rw [List.take_of_length_le (Nat.le_add_left 3 k)]
      decide
  obtain ⟨e, hanswers, hwritten, hpaths, hdocs, -⟩ := total_of_run ho hd hid hl hm hi hr hfit
  have hs : ¬ (Path.parse "s").IsPrefixOf (Path.parse "a.n") := by
    show ¬ ["s"] <+: ["a", "n"]
    decide
  exact ⟨ho, hd, hid, hl, hm, hi, hr, hfit, e, hanswers, hwritten, hpaths _ hs, hdocs 0 "t"⟩

/-- A path below the identifier is refused, and so is every call to a store whose lock is poisoned; an integer that no
call has changed keeps its kind, the document around a counter is another one after a call, and a dry run makes no
call. -/
theorem total_limits :
    (let d : Document := [("_id", .document [("n", .int32 1)])]
      let dep : Deployment := { backends := [.memory { collections := [("t", [d])] }] }
      let c : Adjustment := ⟨{ database := "app", write := 0 }, {}, Builder.on "t", .int32 1, false⟩
      Path.Leads d (Path.parse "_id.n") (.int32 1) ∧ Path.parse "_id.n" ≠ Path.parse "_id" ∧ c.Integral ∧
        AllReady "_id.n" 0 "t" 0 [c] dep ∧ ∀ n, (c.run "_id.n" dep).1 ≠ .ok (.count n)) ∧
      (let d : Document := [("_id", .string "1"), ("n", .int32 1)]
        let dep : Deployment := { backends := [.memory { collections := [("t", [d])], poisoned := true }] }
        let c : Adjustment := ⟨{ database := "app", write := 0 }, {}, Builder.on "t", .int32 1, false⟩
        Path.Leads d (Path.parse "n") (.int32 1) ∧ c.Integral ∧ AllReady "n" 0 "t" 0 [c] dep ∧
          ∀ n, (c.run "n" dep).1 ≠ .ok (.count n)) ∧
      (let d : Document := [("_id", .string "1"), ("n", .int64 5)]
        let dep : Deployment := { backends := [.memory { collections := [("t", [d])] }] }
        Path.Leads d (Path.parse "n") (.int64 5) ∧ (runAll "n" [] dep).2 = dep ∧ .int64 5 ≠ narrowest 5) ∧
      (let d : Document := [("_id", .string "1"), ("a", .document [("n", .int32 1)])]
        let dep : Deployment := { backends := [.memory { collections := [("t", [d])] }] }
        let c : Adjustment := ⟨{ database := "app", write := 0 }, {}, Builder.on "t", .int32 1, false⟩
        c.Integral ∧ AllReady "a.n" 0 "t" 0 [c] dep ∧ Path.Leads d (Path.parse "a.n") (.int32 1) ∧
          ∃ e, (c.run "a.n" dep).2.documents 0 "t" = [e] ∧ Path.parse "a" ≠ Path.parse "a.n" ∧
            Path.resolve e (Path.parse "a") ≠ Path.resolve d (Path.parse "a")) ∧
      let d : Document := [("_id", .string "1"), ("n", .int32 1)]
      let dep : Deployment := { backends := [.memory { collections := [("t", [d])] }] }
      let c : Adjustment :=
        ⟨{ database := "app", write := 0, pretending := true }, {}, Builder.on "t", .int32 1, false⟩
      (c.run "n" dep).1 = .ok (.count 0) ∧ (c.run "n" dep).2 = dep := by
  have hselects : ∀ d : Document, Store.Selects [] [d] 0 := by
    intro d j z hz
    rcases j with _ | j
    · rfl
    · cases hz
  refine ⟨⟨.within rfl (.field rfl), by decide, ⟨⟨_, rfl⟩, nofun⟩, ⟨⟨rfl, rfl, rfl, [], rfl, hselects _⟩, trivial⟩, ?_⟩,
    ⟨.field rfl, ⟨⟨_, rfl⟩, nofun⟩, ⟨⟨rfl, rfl, rfl, [], rfl, hselects _⟩, trivial⟩, ?_⟩, ⟨.field rfl, rfl, nofun⟩,
    ⟨⟨⟨_, rfl⟩, nofun⟩, ⟨⟨rfl, rfl, rfl, [], rfl, hselects _⟩, trivial⟩, .within rfl (.field rfl),
      [("_id", .string "1"), ("a", .document [("n", .int32 2)])], rfl, by decide, ?_⟩, rfl, rfl⟩
  · rintro n ⟨⟩
  · rintro n ⟨⟩
  · show some (Value.document [("n", .int32 2)]) ≠ some (Value.document [("n", .int32 1)])
    rintro ⟨⟩

end Adjustment

end DocQuery
