import GhOst.Mysql.InstanceKey
import Mathlib.Data.Finset.Card

/-! Master discovery (`GetMasterConnectionConfigSafe`, `utils.go`): from the inspected
server, read the master off its replica status, and recurse on the master with the same
credentials, until a server has no valid master. Every master is added to `visitedKeys`
before the recursion reaches it, the starting key never is, and a master already visited
ends the walk: with an error, or with `allowMasterMaster` the config of the server whose
master it is.

The Go recursion has no bound, so the model runs it on a count of calls (`fuel`). Over a
replication topology, a finite map from an instance to its master, the walk the recursion
takes is `Walk`; it exists from every start, has at most one call per replica plus one,
and the recursion returns its outcome exactly when the count covers it. -/

namespace GhOst.Mysql

/-- `ConnectionConfig`: the instance, the credentials copied to another instance, and the
server name of the TLS configuration (`none` without TLS). `Timeout`, the certificates and
`ImpliedKey` are copied along and read by nothing here. -/
structure ConnectionConfig where
  key : InstanceKey
  user : String
  password : String
  transactionIsolation : String
  charset : String
  tlsServerName : Option String
  deriving DecidableEq, Repr

namespace ConnectionConfig

/-- `DuplicateCredentials`: the same credentials for another instance, with a TLS
configuration naming that instance's host. -/
def duplicateCredentials (this : ConnectionConfig) (key : InstanceKey) : ConnectionConfig :=
  { this with key, tlsServerName := this.tlsServerName.map fun _ => key.hostname }

/-- `RegisterTLSConfig`. The driver also refuses the reserved names, which the registered
name `ghost-<server name>` never is. -/
def registerTLSConfig (this : ConnectionConfig) : Except String Unit :=
  match this.tlsServerName with
  | some "" => .error "tlsConfig.ServerName cannot be empty"
  | _ => .ok ()

@[simp] theorem duplicateCredentials_key (this : ConnectionConfig) (key : InstanceKey) :
    (this.duplicateCredentials key).key = key := rfl

@[simp] theorem duplicateCredentials_duplicateCredentials (this : ConnectionConfig) (key other : InstanceKey) :
    (this.duplicateCredentials key).duplicateCredentials other = this.duplicateCredentials other := by
  cases this with
  | mk _ _ _ _ _ tlsServerName => cases tlsServerName <;> rfl

/-- The copy for a valid master always registers its TLS configuration: its server name is
the master's host name, which is not empty. -/
theorem registerTLSConfig_duplicateCredentials (this : ConnectionConfig) {key : InstanceKey}
    (valid : key.isValid = true) : (this.duplicateCredentials key).registerTLSConfig = .ok () := by
  have named := InstanceKey.hostname_ne_empty_of_isValid valid
  cases this with
  | mk _ _ _ _ _ tlsServerName =>
    cases tlsServerName with
    | none => rfl
    | some _ =>
      unfold registerTLSConfig
      split
      · next serverName => exact absurd (Option.some.inj serverName) named
      · rfl

end ConnectionConfig

/-- The error of a master that was visited before. -/
def masterMasterError (masterKey : InstanceKey) : String :=
  "There seems to be a master-master setup at " ++ masterKey.stringCode ++ ". This is unsupported. Bailing out"

section Discovery

-- `GetMasterKeyFromSlaveStatus(dbVersion, connectionConfig)`: an error, no master, or the
-- master's key read off the replica status
variable (getMasterKeyFromSlaveStatus : ConnectionConfig → Except String (Option InstanceKey))
  (allowMasterMaster : Bool)

/-- `GetMasterConnectionConfigSafe`, allowed `fuel` calls; `none` when they run out. -/
def getMasterConnectionConfigSafe :
    Nat → ConnectionConfig → InstanceKeyMap → Option (Except String ConnectionConfig)
  | 0, _, _ => none
  | fuel + 1, connectionConfig, visitedKeys =>
    match getMasterKeyFromSlaveStatus connectionConfig with
    | .error err => some (.error err)
    | .ok none => some (.ok connectionConfig)
    | .ok (some masterKey) =>
      if !masterKey.isValid then some (.ok connectionConfig)
      else
        let masterConfig := connectionConfig.duplicateCredentials masterKey
        match masterConfig.registerTLSConfig with
        | .error err => some (.error err)
        | .ok () =>
          if masterConfig.key ∈ visitedKeys then
            if allowMasterMaster then some (.ok connectionConfig)
            else some (.error (masterMasterError masterConfig.key))
          else
            getMasterConnectionConfigSafe fuel masterConfig (visitedKeys.addKey masterConfig.key)

end Discovery

/-- A replication topology: the master of each replica, for finitely many replicas. -/
structure Topology where
  replicas : Finset InstanceKey
  masterOf : InstanceKey → Option InstanceKey
  replica_of_master : ∀ key, (masterOf key).isSome → key ∈ replicas

namespace Topology

variable (t : Topology) (allowMasterMaster : Bool)

/-- What `GetMasterKeyFromSlaveStatus` reads on a server of the topology. -/
def replicaStatus (connectionConfig : ConnectionConfig) : Except String (Option InstanceKey) :=
  .ok (t.masterOf connectionConfig.key)

/-- The master the recursion moves to: the replica status's master, when it is valid. -/
def follow (key : InstanceKey) : Option InstanceKey :=
  (t.masterOf key).filter InstanceKey.isValid

/-- The walk of master discovery from `key` with the masters `visited` so far: it stops at
a server without a valid master, or at one whose master was visited, and otherwise moves to
the master, which it marks visited. -/
inductive Walk : InstanceKeyMap → InstanceKey → List InstanceKey → Prop
  | stop {visited key} : t.follow key = none → Walk visited key [key]
  | revisit {visited key masterKey} : t.follow key = some masterKey → masterKey ∈ visited →
      Walk visited key [key]
  | step {visited key masterKey walk} : t.follow key = some masterKey → masterKey ∉ visited →
      Walk (visited.addKey masterKey) masterKey walk → Walk visited key (key :: walk)

/-- The result at the end of a walk, from the config of the server it ends at: that
config, unless the server's master was visited and master-master setups are refused. -/
def outcome (connectionConfig : ConnectionConfig) : Except String ConnectionConfig :=
  match t.follow connectionConfig.key with
  | some masterKey => if allowMasterMaster then .ok connectionConfig else .error (masterMasterError masterKey)
  | none => .ok connectionConfig

end Topology

/-- The config the recursion holds at the end of a walk: each step moves the credentials to
the next server. -/
def configAt : ConnectionConfig → List InstanceKey → ConnectionConfig
  | connectionConfig, _ :: next :: rest => configAt (connectionConfig.duplicateCredentials next) (next :: rest)
  | connectionConfig, _ => connectionConfig

namespace Topology

variable (t : Topology) (allowMasterMaster : Bool)

/-- One call over the topology: stop without a valid master, end at a visited one, and
otherwise recurse on the master's config. -/
theorem getMasterConnectionConfigSafe_succ (fuel : Nat) (connectionConfig : ConnectionConfig)
    (visitedKeys : InstanceKeyMap) :
    getMasterConnectionConfigSafe t.replicaStatus allowMasterMaster (fuel + 1) connectionConfig visitedKeys =
      match t.follow connectionConfig.key with
      | none => some (.ok connectionConfig)
      | some masterKey =>
        if masterKey ∈ visitedKeys then some (t.outcome allowMasterMaster connectionConfig)
        else getMasterConnectionConfigSafe t.replicaStatus allowMasterMaster fuel
          (connectionConfig.duplicateCredentials masterKey) (visitedKeys.addKey masterKey) := by
  rw [getMasterConnectionConfigSafe]
  simp only [replicaStatus, follow]
  cases master : t.masterOf connectionConfig.key with
  | none => rfl
  | some masterKey =>
    cases valid : masterKey.isValid with
    | false => simp [Option.filter_some, valid]
    | true =>
      have registered := connectionConfig.registerTLSConfig_duplicateCredentials valid
      by_cases visited : masterKey ∈ visitedKeys
      · cases allowMasterMaster <;> simp [Option.filter_some, valid, registered, visited, outcome, follow, master]
      · simp [Option.filter_some, valid, registered, visited]

variable {t}

theorem Walk.eq_cons {visited : InstanceKeyMap} {key : InstanceKey} {walk : List InstanceKey}
    (walked : t.Walk visited key walk) : ∃ rest, walk = key :: rest := by
  cases walked with
  | stop _ => exact ⟨[], rfl⟩
  | revisit _ _ => exact ⟨[], rfl⟩
  | step _ _ _ => exact ⟨_, rfl⟩

/-- The recursion runs out of calls before the end of the walk, and returns the walk's
outcome once it has a call for every server on it. -/
theorem getMasterConnectionConfigSafe_of_walk {visited : InstanceKeyMap} {key : InstanceKey}
    {walk : List InstanceKey} (walked : t.Walk visited key walk) :
    ∀ connectionConfig : ConnectionConfig, connectionConfig.key = key →
      (∀ fuel < walk.length,
        getMasterConnectionConfigSafe t.replicaStatus allowMasterMaster fuel connectionConfig visited = none) ∧
      ∀ fuel, walk.length ≤ fuel →
        getMasterConnectionConfigSafe t.replicaStatus allowMasterMaster fuel connectionConfig visited =
          some (t.outcome allowMasterMaster (configAt connectionConfig walk)) := by
  induction walked with
  | stop noMaster =>
    refine fun connectionConfig keyed => ⟨fun fuel short => ?_, fun fuel long => ?_⟩
    · rw [Nat.lt_one_iff.mp short]
      rfl
    · cases fuel with
      | zero => simp at long
      | succ fuel =>
        rw [getMasterConnectionConfigSafe_succ, keyed, noMaster]
        simp [configAt, outcome, keyed, noMaster]
  | revisit master visitedMaster =>
    refine fun connectionConfig keyed => ⟨fun fuel short => ?_, fun fuel long => ?_⟩
    · rw [Nat.lt_one_iff.mp short]
      rfl
    · cases fuel with
      | zero => simp at long
      | succ fuel =>
        rw [getMasterConnectionConfigSafe_succ, keyed, master]
        simp [configAt, visitedMaster]
  | @step visited key masterKey walk master fresh rest ih =>
    intro connectionConfig keyed
    obtain ⟨later, rfl⟩ := rest.eq_cons
    have next := ih (connectionConfig.duplicateCredentials masterKey) rfl
    refine ⟨fun fuel short => ?_, fun fuel long => ?_⟩
    · cases fuel with
      | zero => rfl
      | succ fuel =>
        rw [getMasterConnectionConfigSafe_succ, keyed, master]
        simpa [fresh] using next.1 fuel (by simpa using short)
    · cases fuel with
      | zero => simp at long
      | succ fuel =>
        rw [getMasterConnectionConfigSafe_succ, keyed, master]
        simpa [fresh, configAt] using next.2 fuel (by simpa using long)

/-- A walk exists from every server: each step visits a new master, and a master outside
the replicas has no master of its own. -/
theorem exists_walk (visited : InstanceKeyMap) (key : InstanceKey) : ∃ walk, t.Walk visited key walk := by
  induction hm : (t.replicas \ visited).card using Nat.strong_induction_on generalizing visited key with
  | _ remaining ih =>
  cases master : t.follow key with
  | none => exact ⟨_, .stop master⟩
  | some masterKey =>
    by_cases visitedMaster : masterKey ∈ visited
    · exact ⟨_, .revisit master visitedMaster⟩
    · by_cases replica : masterKey ∈ t.replicas
      · have smaller : (t.replicas \ visited.addKey masterKey).card < remaining := by
          rw [← hm, InstanceKeyMap.addKey, Finset.sdiff_insert]
          exact Finset.card_erase_lt_of_mem (Finset.mem_sdiff.mpr ⟨replica, visitedMaster⟩)
        obtain ⟨walk, walked⟩ := ih _ smaller (visited.addKey masterKey) masterKey rfl
        exact ⟨_, .step master visitedMaster walked⟩
      · have noMaster : t.follow masterKey = none := by
          have absent : t.masterOf masterKey = none :=
            Option.not_isSome_iff_eq_none.mp fun some => replica (t.replica_of_master _ some)
          simp [follow, absent]
        exact ⟨_, .step master visitedMaster (.stop noMaster)⟩

theorem replica_of_follow {key masterKey : InstanceKey} (master : t.follow key = some masterKey) :
    key ∈ t.replicas := by
  apply t.replica_of_master key
  unfold follow at master
  cases known : t.masterOf key with
  | none => simp [known] at master
  | some _ => rfl

/-- Every server of a walk but the last has a master, so it is a replica. -/
theorem Walk.dropLast_replicas {visited : InstanceKeyMap} {key : InstanceKey} {walk : List InstanceKey}
    (walked : t.Walk visited key walk) : ∀ x ∈ walk.dropLast, x ∈ t.replicas := by
  induction walked with
  | stop _ => simp
  | revisit _ _ => simp
  | step master _ rest ih =>
    obtain ⟨later, rfl⟩ := rest.eq_cons
    intro x member
    rw [List.dropLast_cons_cons, List.mem_cons] at member
    rcases member with rfl | earlier
    · exact replica_of_follow master
    · exact ih x earlier

/-- The masters a walk moves to are new: none was visited before, and none twice. -/
theorem Walk.tail_fresh {visited : InstanceKeyMap} {key : InstanceKey} {walk : List InstanceKey}
    (walked : t.Walk visited key walk) : walk.tail.Nodup ∧ ∀ x ∈ walk.tail, x ∉ visited := by
  induction walked with
  | stop _ => simp
  | revisit _ _ => simp
  | @step visited key masterKey walk master fresh rest ih =>
    obtain ⟨later, rfl⟩ := rest.eq_cons
    have unseen : ∀ x ∈ later, x ∉ visited.addKey masterKey := ih.2
    refine ⟨List.nodup_cons.mpr ⟨fun again => unseen masterKey again (Finset.mem_insert_self _ _), ih.1⟩, ?_⟩
    intro x member
    rcases List.mem_cons.mp member with rfl | inLater
    · exact fresh
    · exact fun seen => unseen x inLater (Finset.mem_insert_of_mem seen)

/-- A server whose master was visited ends any walk it is on: it is never followed by
another server. -/
theorem Walk.not_mem_dropLast {visited : InstanceKeyMap} {key : InstanceKey} {walk : List InstanceKey}
    (walked : t.Walk visited key walk) :
    ∀ z w, t.follow z = some w → w ∈ visited → z ∉ walk.dropLast := by
  induction walked with
  | stop _ => simp
  | revisit _ _ => simp
  | @step visited key masterKey walk master fresh rest ih =>
    obtain ⟨later, rfl⟩ := rest.eq_cons
    intro z w zMaster seen member
    rw [List.dropLast_cons_cons, List.mem_cons] at member
    rcases member with rfl | inLater
    · rw [master, Option.some.injEq] at zMaster
      exact fresh (zMaster ▸ seen)
    · exact ih z w zMaster (Finset.mem_insert_of_mem seen) inLater

/-- From an empty `visitedKeys` a walk has at most one server per replica, and one more. The
servers before the last are replicas and pairwise distinct: the masters are new, and the
starting server, never marked visited, can only come back as the last one, since its own
master is visited by then. -/
theorem Walk.length_le {key : InstanceKey} {walk : List InstanceKey} (walked : t.Walk ∅ key walk) :
    walk.length ≤ t.replicas.card + 1 := by
  cases walked with
  | stop _ => simp
  | revisit _ seen => simp at seen
  | @step _ _ masterKey rest master _ later =>
    obtain ⟨tail, rfl⟩ := later.eq_cons
    have fresh := later.tail_fresh
    have startOnce : key ∉ (masterKey :: tail).dropLast :=
      later.not_mem_dropLast key masterKey master (Finset.mem_insert_self _ _)
    have mastersOnce : (masterKey :: tail).Nodup :=
      List.nodup_cons.mpr ⟨fun again => fresh.2 masterKey again (Finset.mem_insert_self _ _), fresh.1⟩
    have queried : (key :: (masterKey :: tail).dropLast).Nodup :=
      List.nodup_cons.mpr ⟨startOnce, mastersOnce.sublist (List.dropLast_sublist _)⟩
    have replicas : (key :: (masterKey :: tail).dropLast).toFinset ⊆ t.replicas := by
      intro x member
      rcases List.mem_cons.mp (List.mem_toFinset.mp member) with rfl | earlier
      · exact replica_of_follow master
      · exact later.dropLast_replicas x earlier
    have counted := Finset.card_le_card replicas
    rw [List.toFinset_card_of_nodup queried] at counted
    simp only [List.length_cons, List.length_dropLast] at counted ⊢
    omega

end Topology

/-- Master discovery terminates: from any connection config and an empty `visitedKeys`,
the walk over the topology has at most one server per replica plus one. The recursion makes
exactly one call per server of the walk and returns the config of its last server, unless
that server's master was visited, where it fails unless `allowMasterMaster` is set. -/
theorem master_discovery_terminates (t : Topology) (allowMasterMaster : Bool) (connectionConfig : ConnectionConfig) :
    ∃ walk, t.Walk ∅ connectionConfig.key walk ∧ walk.length ≤ t.replicas.card + 1 ∧
      (∀ fuel < walk.length,
        getMasterConnectionConfigSafe t.replicaStatus allowMasterMaster fuel connectionConfig ∅ = none) ∧
      ∀ fuel, walk.length ≤ fuel →
        getMasterConnectionConfigSafe t.replicaStatus allowMasterMaster fuel connectionConfig ∅ =
          some (t.outcome allowMasterMaster (configAt connectionConfig walk)) := by
  obtain ⟨walk, walked⟩ := t.exists_walk ∅ connectionConfig.key
  have run := Topology.getMasterConnectionConfigSafe_of_walk allowMasterMaster walked connectionConfig rfl
  exact ⟨walk, walked, walked.length_le, run.1, run.2⟩

/-- Two servers that replicate from each other. -/
def masterMasterPair : Topology where
  replicas := {⟨"db-a", 3306⟩, ⟨"db-b", 3306⟩}
  masterOf key :=
    if key = ⟨"db-a", 3306⟩ then some ⟨"db-b", 3306⟩ else if key = ⟨"db-b", 3306⟩ then some ⟨"db-a", 3306⟩ else none
  replica_of_master key known := by
    by_cases first : key = ⟨"db-a", 3306⟩
    · simp [first]
    · by_cases second : key = ⟨"db-b", 3306⟩
      · simp [second]
      · simp [first, second] at known

-- the walk from db-a is db-a, db-b, db-a: the start is revisited before the cycle is seen,
-- so the bound of two replicas plus one is reached
example : getMasterConnectionConfigSafe masterMasterPair.replicaStatus false 2
      ⟨⟨"db-a", 3306⟩, "gh-ost", "", "REPEATABLE-READ", "", none⟩ ∅ = none ∧
    getMasterConnectionConfigSafe masterMasterPair.replicaStatus false 3
      ⟨⟨"db-a", 3306⟩, "gh-ost", "", "REPEATABLE-READ", "", none⟩ ∅ =
      some (.error (masterMasterError ⟨"db-b", 3306⟩)) := by decide

end GhOst.Mysql
