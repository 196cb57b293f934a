import DocQuery.Proofs.Sharing

/-!
# Where reads are sent

A configuration may send reads elsewhere.  The configuration of reads drops the address and puts the hosts and the port
of the override in the place of its own, each by itself, and nothing looks at it again: `openConnection` checks the
configuration that it is given and connects with both.

    reads.validate = ok ↔ the hosts and the port in force can be an address     (validate_forReads_iff)

With a port in force no host is empty, since the port is written behind it (`isEmpty_withPort`).  Where there is no
address that is dropped, only what the override gives can be wrong (`leadsWith_iff_of_no_dsn`); where there is one, the
hosts and the port behind it have never been checked.
-/

namespace DocQuery

namespace Blank

theorem isEmpty_of_mem {s : String} {c : Char} (hc : c ∈ s.toList) (h : isBlank c = false) : isEmpty s = false := by
  rw [isEmpty, List.all_eq_false]
  exact ⟨c, hc, by simp [h]⟩

end Blank

namespace Config

/-! ## Hosts with a port -/

/-- A host with a port is never empty. -/
theorem isEmpty_withPort (port : Option UInt16) (host : String) :
    Blank.isEmpty (withPort port host) = (port.isNone && Blank.isEmpty host) := by
  cases port with
  | none => rfl
  | some port =>
    have hcolon : ':' ∈ (withPort (some port) host).toList := by
      rw [withPort]
      split_ifs with h
      · exact List.contains_iff_mem.1 h
      · simp
    rw [Blank.isEmpty_of_mem hcolon (by decide)]
    rfl

theorem hosts_any_isEmpty (c : Config) :
    c.hosts.any Blank.isEmpty = false ↔ (c.port = none → ∀ host ∈ c.host.toList, Blank.isEmpty host = false) := by
  rw [hosts, List.any_map, List.any_eq_false]
  simp only [Function.comp_apply, isEmpty_withPort]
  cases c.port <;> simp

/-! ## The configuration of reads -/

/-- The hosts and the port that are in force with an override can be an address: there are hosts, none is empty where
no port is written behind it, and the port is not zero. -/
structure LeadsWith (c : Config) (override : ReadOverride) : Prop where
  some_host : (override.host.getD c.host).toList ≠ []
  named : override.port.or c.port = none → ∀ host ∈ (override.host.getD c.host).toList, Blank.isEmpty host = false
  port : override.port.or c.port ≠ some 0

/-- The configuration of reads of a valid configuration is valid exactly when what is in force with the override can
be an address. -/
theorem validate_forReads_iff {c : Config} (hc : c.validate = .ok ()) {override : ReadOverride}
    (hover : c.read = some override) :
    ∃ reads, c.forReads? = some reads ∧ (reads.validate = .ok () ↔ c.LeadsWith override) := by
  obtain ⟨hdriver, hdatabase, -⟩ := (validate_eq_ok_iff c).1 hc
  refine ⟨_, by rw [forReads?, hover]; rfl, ?_⟩
  rw [validate_eq_ok_iff, hosts_any_isEmpty]
  constructor
  · rintro ⟨-, -, h | ⟨hhosts, hnamed, hport⟩⟩
    · cases h
    · exact ⟨fun h => hhosts (List.map_eq_nil_iff.2 h), hnamed, hport⟩
  · rintro ⟨hhosts, hnamed, hport⟩
    exact ⟨hdriver, hdatabase, .inr ⟨fun h => hhosts (List.map_eq_nil_iff.1 h), hnamed, hport⟩⟩

/-- Without an address of its own a valid configuration has hosts and a port that hold for reads too, and only those of
the override can be wrong. -/
theorem leadsWith_iff_of_no_dsn {c : Config} (hc : c.validate = .ok ()) (hdsn : c.ownDsn? = none)
    (override : ReadOverride) :
    c.LeadsWith override ↔ override.port ≠ some 0 ∧ ∀ hosts, override.host = some hosts →
      hosts.toList ≠ [] ∧ (override.port.or c.port = none → ∀ host ∈ hosts.toList, Blank.isEmpty host = false) := by
  obtain ⟨-, -, h | ⟨hhosts, hnamed, hport⟩⟩ := (validate_eq_ok_iff c).1 hc
  · rw [hdsn] at h
    cases h
  rw [hosts_any_isEmpty] at hnamed
  have hsome : c.host.toList ≠ [] := fun h => hhosts (List.map_eq_nil_iff.2 h)
  constructor
  · rintro ⟨hgiven, hnames, hzero⟩
    refine ⟨fun h => hzero (by rw [h]; rfl), fun hosts hh => ?_⟩
    rw [hh] at hgiven hnames
    exact ⟨hgiven, hnames⟩
  · rintro ⟨hzero, hown⟩
    have hinforce : override.port.or c.port ≠ some 0 := by
      cases hp : override.port with
      | none => exact hport
      | some p => rwa [hp] at hzero
    cases hh : override.host with
    | none =>
      refine ⟨by rw [hh]; exact hsome, fun hnone => ?_, hinforce⟩
      rw [hh]
      exact hnamed (Option.or_eq_none_iff.1 hnone).2
    | some hosts =>
      obtain ⟨hgiven, hnames⟩ := hown hosts hh
      exact ⟨by rw [hh]; exact hgiven, by rw [hh]; exact hnames, hinforce⟩

end Config

namespace Connector

variable {given : List (Config × Nat)} {r : Connector} {d : Deployment} {c : Config}

/-- A valid configuration is connected with, and then that of its reads as it is. -/
theorem openConnection_hands (hrun : Run given r d) (hc : c.validate = .ok ()) :
    ∃ conn r' d' handed, openConnection r d c = .ok (conn, r', d') ∧ Run (handed ++ given) r' d' ∧
      handed.map Prod.fst = c.forReads?.toList ++ [c] := by
  have hwrite := hrun.connect c
  rw [openConnection, hc]
  cases hreads : c.forReads? with
  | none => exact ⟨_, _, _, [(c, _)], rfl, hwrite, rfl⟩
  | some reads => exact ⟨_, _, _, [(reads, _), (c, _)], rfl, hwrite.connect reads, rfl⟩

/-- Opening a connection connects with a valid configuration and then with that of its reads, unchecked.  All that is
connected with is valid exactly when what is in force with the override can be an address; where the configuration has
no address of its own, exactly when what the override itself gives can be. -/
theorem handed_valid_iff (hrun : Run given r d) (hc : c.validate = .ok ()) :
    ∃ conn r' d' handed, openConnection r d c = .ok (conn, r', d') ∧ Run (handed ++ given) r' d' ∧
      handed.map Prod.fst = c.forReads?.toList ++ [c] ∧
      ((∀ p ∈ handed, p.1.validate = .ok ()) ↔ ∀ override, c.read = some override → c.LeadsWith override) ∧
      (c.ownDsn? = none → ∀ override, c.LeadsWith override ↔
        override.port ≠ some 0 ∧ ∀ hosts, override.host = some hosts →
          hosts.toList ≠ [] ∧ (override.port.or c.port = none → ∀ host ∈ hosts.toList, Blank.isEmpty host = false)) := by
  obtain ⟨conn, r', d', handed, hopen, hrun', hhanded⟩ := openConnection_hands hrun hc
  refine ⟨conn, r', d', handed, hopen, hrun', hhanded, ?_, fun h => Config.leadsWith_iff_of_no_dsn hc h⟩
  have hvalid : (∀ p ∈ handed, p.1.validate = .ok ()) ↔
      ∀ reads, c.forReads? = some reads → reads.validate = .ok () := by
    rw [← List.forall_mem_map (f := Prod.fst) (P := fun e : Config => e.validate = .ok ()), hhanded]
    constructor
    · intro h reads hreads
      exact h reads (by simp [hreads])
    · intro h e he
      rcases List.mem_append.1 he with he | he
      · exact h e (by simpa using he)
      · rw [List.mem_singleton.1 he]
        exact hc
  rw [hvalid]
  cases hover : c.read with
  | none => simp [Config.forReads?, hover]
  | some override =>
    obtain ⟨reads, hreads, hiff⟩ := Config.validate_forReads_iff hc hover
    simp [hreads, hiff]

/-- An override that leads to another host, with the port of the configuration. -/
theorem handed_valid_iff_replica :
    let c : Config := { database := "app", port := some 27017, read := some { host := some (.one "replica") } }
    Run [] {} {} ∧ c.validate = .ok () ∧ c.ownDsn? = none ∧
      ∃ conn r d handed, openConnection {} {} c = .ok (conn, r, d) ∧ Run handed r d ∧
        handed.map (fun p => p.1.address) = ["mongodb://replica:27017", "mongodb://localhost:27017"] ∧
        ∀ p ∈ handed, p.1.validate = .ok () := by
  intro c
  have hrun : Run [] {} {} := .start {}
  have hc : c.validate = .ok () := (Config.validate_eq_ok_iff c).2 (by decide +kernel)
  have hdsn : c.ownDsn? = none := rfl
  obtain ⟨conn, r, d, handed, hopen, hrun', hhanded, hvalid, hown⟩ := handed_valid_iff hrun hc
  refine ⟨hrun, hc, hdsn, conn, r, d, handed, hopen, List.append_nil handed ▸ hrun', ?_,
    hvalid.2 fun override hover => ?_⟩
  · have haddress := congrArg (List.map Config.address) hhanded
    rw [List.map_map] at haddress
    exact haddress.trans (by decide +kernel)
  · cases hover
    refine (hown hdsn _).2 ⟨by decide, fun hosts hh => ?_⟩
    cases hh
    exact ⟨by decide, fun h => by cases h⟩

/-- Valid configurations with reads that are not, and that are connected with all the same: an override with the port
zero, and one behind an address that is dropped in front of no hosts. -/
theorem handed_not_valid :
    let zero : Config := { database := "app", read := some { port := some 0 } }
    let bare : Config := { database := "app", dsn := some "mongodb://db", host := .many [], read := some {} }
    (zero.validate = .ok () ∧ ∃ reads, zero.forReads? = some reads ∧
      reads.validate = .error (.invalid "port must be non-zero")) ∧
    (bare.validate = .ok () ∧ ∃ reads, bare.forReads? = some reads ∧
      reads.validate = .error (.invalid "host must not be empty")) ∧
    ∃ conn r d handed, openConnection {} {} zero = .ok (conn, r, d) ∧ Run handed r d ∧
      ∃ p ∈ handed, p.1.validate ≠ .ok () := by
  intro zero bare
  have hzero : zero.validate = .ok () := (Config.validate_eq_ok_iff zero).2 (by decide +kernel)
  have hbare : bare.validate = .ok () := (Config.validate_eq_ok_iff bare).2 (by decide +kernel)
  have hport : ({ database := "app", port := some 0 } : Config).validate =
      .error (.invalid "port must be non-zero") := by decide +kernel
  have hhosts : ({ database := "app", host := .many [] } : Config).validate =
      .error (.invalid "host must not be empty") := by decide +kernel
  refine ⟨⟨hzero, _, rfl, hport⟩, ⟨hbare, _, rfl, hhosts⟩, ?_⟩
  obtain ⟨conn, r, d, handed, hopen, hrun, hhanded⟩ := openConnection_hands (.start {}) hzero
  refine ⟨conn, r, d, handed, hopen, List.append_nil handed ▸ hrun, ?_⟩
  have hreads : ({ database := "app", port := some 0 } : Config) ∈ handed.map Prod.fst := by
    rw [hhanded]
    exact List.mem_cons_self
  obtain ⟨p, hp, hfirst⟩ := List.mem_map.1 hreads
  refine ⟨p, hp, ?_⟩
  rw [hfirst, hport]
  rintro ⟨⟩

end Connector

end DocQuery
