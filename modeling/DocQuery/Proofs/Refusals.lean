import DocQuery.Proofs.ClauseLists
import DocQuery.Proofs.Collections
import DocQuery.Proofs.Requests
import DocQuery.Proofs.Stages

/-!
# Constructs without a document form

A query holds the constructs that its modifiers have recorded, whatever else they do (`mem_constructs_modify`):

    c ∈ (b.modify ms).query.constructs ↔ c ∈ b.query.constructs ∨ some m ∈ ms records c

A read compiles only where there are none, the filter of a write only where there is none but a random order:

    q.stages = ok stages → q.constructs = []                                          (constructs_of_stages)
    q.filter = ok filter → ∀ c ∈ q.constructs, c = randomOrdering                     (constructs_of_filter)

So terminals refuse what is recorded before anything is sent (`refused_of_recorded`), but the ones that change
documents do not look at the order, and a random one does not stop them (`random_order_deletes`).
-/

namespace DocQuery

/-! ## What is recorded -/

/-- The construct that a predicate asks for. -/
def Predicate.construct? : Predicate → Option Construct
  | relational form => some (FilterDocument.refusal form)
  | _ => none

/-- The construct that an order asks for. -/
def Order.construct? : Order → Option Construct
  | random _ => some .randomOrdering
  | _ => none

/-- The construct that a modifier records. -/
def Modifier.construct? : Modifier → Option Construct
  | join _ => some .joins
  | groupBy _ => some .groupBy
  | having _ => some .having
  | union _ => some .unions
  | lock _ => some .rowLocks
  | clause c => c.predicate.construct?
  | order o => o.construct?
  | _ => none

namespace Query

/-- The constructs that a query holds. -/
def constructs (q : Query) : List Construct :=
  q.joins.map (fun _ => Construct.joins) ++ q.groups.map (fun _ => Construct.groupBy)
    ++ q.havings.map (fun _ => Construct.having) ++ q.unions.map (fun _ => Construct.unions)
    ++ q.lock.toList.map (fun _ => Construct.rowLocks)
    ++ q.clauses.filterMap (fun c => c.predicate.construct?) ++ q.orders.filterMap Order.construct?

theorem mem_constructs_iff (q : Query) (c : Construct) :
    c ∈ q.constructs ↔ (q.joins ≠ [] ∧ c = .joins) ∨ (q.groups ≠ [] ∧ c = .groupBy) ∨
      (q.havings ≠ [] ∧ c = .having) ∨ (q.unions ≠ [] ∧ c = .unions) ∨ (q.lock ≠ none ∧ c = .rowLocks) ∨
      (∃ a ∈ q.clauses, a.predicate.construct? = some c) ∨ ∃ o ∈ q.orders, o.construct? = some c := by
  have hlock : c ∈ q.lock.toList.map (fun _ => Construct.rowLocks) ↔ q.lock ≠ none ∧ c = .rowLocks := by
    cases q.lock <;> simp [eq_comm]
  simp only [constructs, List.mem_append, hlock]
  simp [List.map_const', List.mem_replicate, or_assoc]

/-- A modifier keeps what is held and adds what it records. -/
theorem mem_constructs_change (m : Modifier) (q : Query) (c : Construct) :
    c ∈ (m.change q).constructs ↔ c ∈ q.constructs ∨ m.construct? = some c := by
  cases m with
  | join _ | groupBy _ | having _ | union _ | lock _ | clause _ | order _ =>
    simp [mem_constructs_iff, Modifier.change, Modifier.construct?]
    grind
  | _ => exact (or_iff_left (Option.some_ne_none c).symm).symm

theorem refused?_eq_none_iff (q : Query) :
    q.refused? = none ↔
      q.joins = [] ∧ q.groups = [] ∧ q.havings = [] ∧ q.unions = [] ∧ q.lock = none := by
  unfold refused?
  split_ifs <;> simp_all [Option.isSome_iff_ne_none]

theorem construct?_of_compiles {a : Clause} (h : a.Compiles) : a.predicate.construct? = none := by
  obtain ⟨f, hf⟩ := h
  cases hp : a.predicate with
  | relational form =>
    rw [hp] at hf
    cases hf
  | _ => rfl

theorem construct?_of_ofClauses {cs : List Clause} {filter : Document}
    (h : FilterDocument.ofClauses cs = .ok filter) : ∀ a ∈ cs, a.predicate.construct? = none := by
  obtain ⟨fragments, hf, -⟩ := (Outcome.map_eq_ok_iff _ _ _).1 h
  exact fun a ha => construct?_of_compiles (FilterDocument.compiles_of_fragments hf a ha)

theorem construct?_of_sortKeys {os : List Order} {keys : List (String × Value)} (h : sortKeys os = .ok keys) :
    ∀ o ∈ os, o.construct? = none := by
  induction os generalizing keys with
  | nil => simp
  | cons o rest ih =>
    obtain ⟨k, hk, h⟩ := (Outcome.bind_eq_ok_iff _ _ _).1 h
    obtain ⟨later, hl, -⟩ := (Outcome.bind_eq_ok_iff _ _ _).1 h
    refine List.forall_mem_cons.2 ⟨?_, ih hl⟩
    cases o with
    | column name direction => rfl
    | random seed => cases hk

/-- What the clauses and the relational parts let pass is held by the orders. -/
theorem mem_orders_of_constructs {q : Query} {own : Document} (hr : q.refused? = none)
    (hf : FilterDocument.ofClauses q.clauses = .ok own) {c : Construct} (hc : c ∈ q.constructs) :
    ∃ o ∈ q.orders, o.construct? = some c := by
  obtain ⟨hj, hg, hh, hu, hl⟩ := (refused?_eq_none_iff q).1 hr
  rcases (mem_constructs_iff q c).1 hc with
    ⟨hn, -⟩ | ⟨hn, -⟩ | ⟨hn, -⟩ | ⟨hn, -⟩ | ⟨hn, -⟩ | ⟨a, ha, hac⟩ | horders
  · exact absurd hj hn
  · exact absurd hg hn
  · exact absurd hh hn
  · exact absurd hu hn
  · exact absurd hl hn
  · rw [construct?_of_ofClauses hf a ha] at hac
    cases hac
  · exact horders

/-- The filter of a write is there only where nothing is held but random orders. -/
theorem constructs_of_filter {q : Query} {filter : Document} (h : q.filter = .ok filter) :
    ∀ c ∈ q.constructs, c = .randomOrdering := by
  obtain ⟨⟨⟩, hr, hf⟩ := (Outcome.bind_eq_ok_iff _ _ _).1 h
  intro c hc
  obtain ⟨o, -, ho⟩ := mem_orders_of_constructs (q.checkRelational_eq_ok_iff.1 hr) hf hc
  cases o with
  | column name direction => cases ho
  | random seed => exact (Option.some.inj ho).symm

/-- The stages of a read are there only where nothing is held. -/
theorem constructs_of_stages {q : Query} {stages : List Stage} (h : q.stages = .ok stages) :
    q.constructs = [] := by
  obtain ⟨hr, own, _, _, keys, hf, -, hk, -⟩ := stages_eq_ok_iff.1 h
  refine List.eq_nil_iff_forall_not_mem.2 fun c hc => ?_
  obtain ⟨o, ho, hoc⟩ := mem_orders_of_constructs hr hf hc
  rw [construct?_of_sortKeys hk o ho] at hoc
  cases hoc

end Query

/-- All modifiers keep what is held and add what they record. -/
theorem Builder.mem_constructs_modify (b : Builder) (ms : List Modifier) (c : Construct) :
    c ∈ (b.modify ms).query.constructs ↔ c ∈ b.query.constructs ∨ ∃ m ∈ ms, m.construct? = some c := by
  induction ms generalizing b with
  | nil => simp [modify]
  | cons m rest ih =>
    have happly : (m.apply b).query = m.change b.query := by cases m <;> rfl
    have hrest : (b.modify (m :: rest)) = (m.apply b).modify rest := rfl
    rw [hrest, ih, happly, Query.mem_constructs_change, List.exists_mem_cons_iff, or_assoc]

/-! ## What is refused -/

/-- An action that stops at the compiler, and has done nothing then. -/
def Action.Refuses {α : Type} (a : Action α) : Prop :=
  ∃ e, ∀ s, a.on s = (.error (.error (.compile e)), s)

theorem Action.refuses_compiled_bind {α β : Type} {c : Compiled α} (h : ∀ x, c ≠ .ok x) (f : α → Action β) :
    (Session.compiled c >>= f).Refuses := by
  cases c with
  | ok x => exact absurd rfl (h x)
  | error e => exact ⟨e, fun s => on_bind_of_error (Session.compiled_error_on e s) f⟩

theorem Action.Refuses.map {α β : Type} {a : Action α} (h : a.Refuses) (f : α → β) : (f <$> a).Refuses := by
  obtain ⟨e, he⟩ := h
  refine ⟨e, fun s => ?_⟩
  rw [on_map, he]
  rfl

theorem Action.Asks.refuses {α : Type} {a : Action α} {d : Session.Dispatch} {r : Request} (h : a.Asks d r)
    (hr : ∀ st, r.compile ≠ .ok st) : a.Refuses := by
  obtain ⟨shape, rfl⟩ := h
  exact refuses_compiled_bind hr _

namespace Terminal

/-- The terminals that read rows, or a value of them. -/
def Reads : Terminal → Prop
  | get => True
  | first => True
  | find id => id.isNull = false
  | value _ => True
  | pluck _ => True
  | aggregate _ _ => True
  | count => True
  | countColumn _ => True
  | sum _ => True
  | avg _ => True
  | min _ => True
  | max _ => True
  | toPipeline => True
  | _ => False

/-- The terminals that change stored documents. -/
def Changes : Terminal → Prop
  | update _ => True
  | increment _ _ _ => True
  | decrement _ _ _ => True
  | delete _ => True
  | push _ _ _ => True
  | pull _ _ => True
  | _ => False

variable {b : Builder} {t : Terminal} {d : Session.Dispatch} {q : Query} {c : Construct}

theorem refuses_of_selection (h : t.request? b = some (d, .select q)) (hc : c ∈ q.constructs) :
    (t.run b).Refuses := by
  refine (run_of_request h).refuses fun st hst => ?_
  obtain ⟨stages, hs, -⟩ := (Outcome.bind_eq_ok_iff _ _ _).1 hst
  rw [Query.constructs_of_stages hs] at hc
  cases hc

theorem refuses_of_filter {α : Type} {a : Action α} {r : Request} (h : a.Asks d r)
    {rest : Document → Compiled Statement} (hr : r.compile = q.filter >>= rest) (hc : c ∈ q.constructs)
    (hn : c ≠ .randomOrdering) : a.Refuses := by
  refine h.refuses fun st hst => ?_
  rw [hr] at hst
  obtain ⟨filter, hf, -⟩ := (Outcome.bind_eq_ok_iff _ _ _).1 hst
  exact hn (Query.constructs_of_filter hf c hc)

theorem mem_constructs_byId (hc : c ∈ b.query.constructs) (id : Value) : c ∈ (b.byId id).query.constructs :=
  (Query.mem_constructs_change (.whereEq "_id" id) b.query c).2 (.inl hc)

theorem mem_constructs_target (hc : c ∈ b.query.constructs) (id : Option Value) :
    c ∈ (b.target id).query.constructs := by
  cases id with
  | none => exact hc
  | some id =>
    rw [Builder.target]
    split
    · exact hc
    · exact mem_constructs_byId hc id

/-- A read refuses every construct that is held. -/
theorem refuses_of_reads (ht : t.Reads) (hc : c ∈ b.query.constructs) : (t.run b).Refuses := by
  cases t with
  | get => exact refuses_of_selection rfl hc
  | first => exact refuses_of_selection rfl hc
  | find id =>
    have hid : id.isNull = false := ht
    have hrequest : (find id).request? b = some (.select (!b.usesWriteHandle),
        .select { (b.byId id).query with limit := some 1 }) := by
      rw [request?, hid]
      rfl
    exact refuses_of_selection hrequest (mem_constructs_byId hc id)
  | value column => exact refuses_of_selection rfl hc
  | pluck column => exact refuses_of_selection rfl hc
  | aggregate function columns => exact refuses_of_selection rfl hc
  | count => exact refuses_of_selection rfl hc
  | countColumn column => exact refuses_of_selection rfl hc
  | sum column => exact refuses_of_selection rfl hc
  | avg column => exact refuses_of_selection rfl hc
  | min column => exact refuses_of_selection rfl hc
  | max column => exact refuses_of_selection rfl hc
  | toPipeline =>
    refine (Action.refuses_compiled_bind (fun st hst => ?_) _).map _
    obtain ⟨stages, hs, -⟩ := (Outcome.bind_eq_ok_iff _ _ _).1 hst
    rw [Query.constructs_of_stages hs] at hc
    cases hc
  | _ => exact ht.elim

/-- A change refuses every construct that is held, a random order apart. -/
theorem refuses_of_changes (ht : t.Changes) (hc : c ∈ b.query.constructs) (hn : c ≠ .randomOrdering) :
    (t.run b).Refuses := by
  have hincrement : ∀ column amount others, (b.increment column amount others).Refuses := by
    intro column amount others
    by_cases ha : Builder.isAmount amount
    · have haddition : b.addition column amount others =
          some (.affecting, .update b.query (Builder.incrementUpdate column amount others)) := if_pos ha
      exact refuses_of_filter (b.increment_asks haddition) rfl hc hn
    · rw [Builder.increment, if_neg ha]
      exact ⟨_, Session.compiled_error_on _⟩
  cases t with
  | update values => exact refuses_of_filter (run_of_request rfl) rfl hc hn
  | increment column amount others => exact (hincrement _ _ _).map _
  | decrement column amount others => exact (hincrement _ _ _).map _
  | delete id => exact refuses_of_filter (run_of_request rfl) rfl (mem_constructs_target hc id) hn
  | push column v unique => exact refuses_of_filter (run_of_request rfl) rfl hc hn
  | pull column v => exact refuses_of_filter (run_of_request rfl) rfl hc hn
  | _ => exact ht.elim

/-- A change does not look at the order. -/
theorem run_of_orders (ht : t.Changes) (b : Builder) (orders : List Order) :
    t.run { b with query := { b.query with orders } } = t.run b := by
  cases t with
  | update values => rfl
  | increment column amount others => rfl
  | decrement column amount others => rfl
  | delete id =>
    show Answer.count <$> Builder.changing (.delete (Builder.target _ id).query) = _
    cases id with
    | none => rfl
    | some id =>
      rw [Builder.target]
      show _ = Answer.count <$> Builder.changing (.delete (Builder.target b (some id)).query)
      rw [Builder.target]
      split <;> rfl
  | push column v unique => rfl
  | pull column v => rfl
  | _ => exact ht.elim

end Terminal

/-! ## Main result -/

/-- Once a construct without a document form is recorded, among any other modifiers, every read is refused by the
compiler, and so is every change unless the construct is a random order; nothing is sent, counted or logged.  The
order does not matter to a change. -/
theorem Builder.refused_of_recorded (collection : String) {ms : List Modifier} {m : Modifier} (hm : m ∈ ms)
    {c : Construct} (hc : m.construct? = some c) (t : Terminal) :
    let b := (Builder.on collection).modify ms
    (t.Reads → (t.run b).Refuses) ∧ (t.Changes → c ≠ .randomOrdering → (t.run b).Refuses) ∧
      (t.Changes → ∀ orders, t.run { b with query := { b.query with orders } } = t.run b) := by
  intro b
  have hheld : c ∈ b.query.constructs := (mem_constructs_modify _ ms c).2 (.inr ⟨m, hm, hc⟩)
  exact ⟨fun ht => Terminal.refuses_of_reads ht hheld, fun ht hn => Terminal.refuses_of_changes ht hheld hn,
    fun ht orders => Terminal.run_of_orders ht b orders⟩

/-- A count and an update of a builder that also joins. -/
theorem Builder.refused_of_recorded_join :
    let ms := [.whereEq "state" (.string "open"), .join "people", .limit 5]
    let b := (Builder.on "tasks").modify ms
    Modifier.join "people" ∈ ms ∧ (Terminal.count.run b).Refuses ∧
      ((Terminal.update [("state", .string "done")]).run b).Refuses := by
  intro ms b
  have hm : Modifier.join "people" ∈ ms := by simp [ms]
  exact ⟨hm, (refused_of_recorded "tasks" hm rfl .count).1 trivial,
    (refused_of_recorded "tasks" hm rfl (.update _)).2.1 trivial (by decide)⟩

/-- A delete in random order is not refused: it deletes every document. -/
theorem Builder.random_order_deletes :
    let store : Store := { collections := [("tasks", [[("_id", .int32 1)], [("_id", .int32 2)]])] }
    let s : Session := { Session.inMemory "app" with deployment := { backends := [.memory store] } }
    let b := (Builder.on "tasks").modify [.inRandomOrder none]
    (Modifier.inRandomOrder none).construct? = some .randomOrdering ∧ ¬ (b.delete none).Refuses ∧
      ((b.delete none).on s).1 = .ok 2 ∧ ((b.delete none).on s).2.deployment.documents 0 "tasks" = [] := by
  intro store s b
  have hdeleted : ((b.delete none).on s).1 = .ok 2 := by rfl
  refine ⟨rfl, ?_, hdeleted, ?_⟩
  · rintro ⟨e, he⟩
    rw [he s] at hdeleted
    cases hdeleted
  · rfl

end DocQuery
