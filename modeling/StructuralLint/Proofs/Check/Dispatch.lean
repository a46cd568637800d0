import Mathlib.Data.List.Nodup
import StructuralLint.Check.Dispatch
import StructuralLint.Proofs.Lists
import StructuralLint.Proofs.Tree.Preorder

/-!
# What a scan calls

A scan calls a consumer once for every visit to a node of its kind and for every time it is
registered, node by node and for each node in the order of registration (`Dispatcher.calls`,
`Dispatcher.count_calls`). It finds what the calls find, one after the other
(`Dispatcher.scan_eq`). Once the checks are set up a dispatcher never changes, so that whatever it
is asked in between, a scan finds what a new dispatcher with the same checks finds
(`Dispatcher.run_serve_ofChecks`).
-/

namespace StructuralLint

namespace Dispatcher

/-- A call of a consumer: the node that it is given, and its registration with its place among
all. -/
structure Call where
  node : NodeId
  registration : Registration
  place : Nat

/-- What is found in a call. -/
def Call.issues (tree : Tree) (filePath : String) (call : Call) : Except CheckError (List Issue) :=
  (call.registration.consumer tree call.node ⟨filePath, call.registration.key⟩).map fun findings =>
    findings.map (issueOf tree filePath call.registration.key)

/-- The calls for a node: one for each registration for its kind. -/
def callsAt (registrations : List Registration) (tree : Tree) (node : NodeId) : List Call :=
  (registrations.zipIdx.filter fun item => tree.kind? node = some item.1.kind).map fun item =>
    ⟨node, item.1, item.2⟩

/-- The calls of a scan: node by node. -/
def calls (registrations : List Registration) (tree : Tree) : List Call :=
  (tree.walk tree.root).flatMap (callsAt registrations tree)

/-- The consumers of checks, check by check. -/
def registered (checks : List Check) : List Registration :=
  checks.flatMap fun check =>
    check.consumers.map fun (kind, consumer) => ⟨kind, check.key, consumer⟩

variable {dispatcher : Dispatcher} {check : Check} {checks : List Check} {tree : Tree}
  {filePath : String} {registrations : List Registration} {node : NodeId} {place : Nat}

/-! ### Setting up -/

theorem register_of_closed (closed : dispatcher.current = none) (kind : Kind)
    (consumer : Consumer) : dispatcher.register kind consumer = .error .closed := by
  unfold register
  rw [closed]

/-- A check is set up by registering its consumers one after the other. -/
theorem foldlM_register (dispatcher : Dispatcher) (check : Check) :
    check.consumers.foldlM (fun dispatcher (kind, consumer) => dispatcher.register kind consumer)
      { dispatcher with current := some check.key } = .ok (dispatcher.setUp check) := by
  have each (consumers : List (Kind × Consumer)) (dispatcher : Dispatcher)
      (current : dispatcher.current = some check.key) :
      consumers.foldlM (fun dispatcher (kind, consumer) => dispatcher.register kind consumer)
          dispatcher =
        .ok (consumers.foldl
          (fun dispatcher (kind, consumer) => dispatcher.add check.key kind consumer)
          dispatcher) := by
    induction consumers generalizing dispatcher with
    | nil => rfl
    | cons head rest ih =>
        rw [List.foldlM_cons, List.foldl_cons]
        unfold register
        rw [current]
        exact ih _ current
  exact each _ _ rfl

theorem registrations_setUp : (dispatcher.setUp check).registrations =
    dispatcher.registrations ++ registered [check] := by
  have each (consumers : List (Kind × Consumer)) (dispatcher : Dispatcher) :
      (consumers.foldl (fun dispatcher (kind, consumer) => dispatcher.add check.key kind consumer)
        dispatcher).registrations =
      dispatcher.registrations ++
        consumers.map fun (kind, consumer) => ⟨kind, check.key, consumer⟩ := by
    induction consumers generalizing dispatcher with
    | nil => simp
    | cons head rest ih =>
        rw [List.foldl_cons, ih]
        unfold add
        rw [List.append_assoc]
        rfl
  unfold setUp registered
  rw [each]
  simp

theorem registrations_ofChecks (checks : List Check) :
    (ofChecks checks).registrations = registered checks := by
  have each (checks : List Check) (dispatcher : Dispatcher) :
      (checks.foldl setUp dispatcher).registrations =
        dispatcher.registrations ++ registered checks := by
    induction checks generalizing dispatcher with
    | nil => simp [registered]
    | cons check rest ih =>
        rw [List.foldl_cons, ih, registrations_setUp, List.append_assoc]
        simp [registered]
  exact (each checks _).trans (List.nil_append _)

/-! ### Calls -/

/-- What is found at a node is what its calls find. -/
theorem issuesAt_eq (dispatcher : Dispatcher) (tree : Tree) (filePath : String) (node : NodeId) :
    dispatcher.issuesAt tree filePath node =
      ((callsAt dispatcher.registrations tree node).mapM (Call.issues tree filePath)).map
        List.flatten := by
  have interested : (dispatcher.registrations.filter fun registration =>
      tree.kind? node = some registration.kind) =
        (dispatcher.registrations.zipIdx.filter fun item =>
          tree.kind? node = some item.1.kind).map (·.1) := by
    conv_lhs => rw [← List.zipIdx_map_fst 0 dispatcher.registrations, List.filter_map]
    rfl
  unfold issuesAt callsAt
  simp only [interested, List.mapM_map, Lists.bind_pure_eq_map]
  rfl

/-- **A scan finds what its calls find.** -/
theorem scan_eq (dispatcher : Dispatcher) (tree : Tree) (filePath : String) :
    dispatcher.scan tree filePath =
      ((calls dispatcher.registrations tree).mapM (Call.issues tree filePath)).map
        List.flatten := by
  unfold scan calls
  rw [← Lists.flatten_mapM_flatMap, Lists.bind_pure_eq_map]
  exact congrArg (Except.map List.flatten)
    (congrArg (List.mapM · _) (funext (dispatcher.issuesAt_eq tree filePath)))

/-- All that a scan finds is in the file that is scanned. -/
theorem filePath_of_mem_scan {issues : List Issue}
    (found : dispatcher.scan tree filePath = .ok issues) {issue : Issue} (member : issue ∈ issues) :
    issue.filePath = filePath := by
  rw [scan_eq] at found
  cases each : (calls dispatcher.registrations tree).mapM (Call.issues tree filePath) with
  | error error =>
      rw [each] at found
      cases found
  | ok lists =>
      rw [each] at found
      cases found
      obtain ⟨list, among, inside⟩ := List.mem_flatten.mp member
      obtain ⟨call, -, issues⟩ := Lists.exists_left (Lists.forall₂_of_mapM each) among
      unfold Call.issues at issues
      cases findings : call.registration.consumer tree call.node
          ⟨filePath, call.registration.key⟩ with
      | error error =>
          rw [findings] at issues
          cases issues
      | ok findings' =>
          rw [findings] at issues
          cases issues
          obtain ⟨finding, -, rfl⟩ := List.mem_map.mp inside
          unfold issueOf
          split <;> rfl

theorem mem_callsAt_iff {call : Call} : call ∈ callsAt registrations tree node ↔
    call.node = node ∧ registrations[call.place]? = some call.registration ∧
      tree.kind? node = some call.registration.kind := by
  obtain ⟨other, registration, place⟩ := call
  unfold callsAt
  simp only [List.mem_map, List.mem_filter, decide_eq_true_eq, Call.mk.injEq]
  constructor
  · rintro ⟨item, ⟨member, kind⟩, rfl, rfl, rfl⟩
    exact ⟨rfl, List.mem_zipIdx_iff_getElem?.mp member, kind⟩
  · rintro ⟨rfl, found, kind⟩
    exact ⟨(registration, place), ⟨List.mem_zipIdx_iff_getElem?.mpr found, kind⟩, rfl, rfl, rfl⟩

/-- The node and the place of a call. -/
def Call.site (call : Call) : NodeId × Nat := (call.node, call.place)

/-- The calls for a node have different places. -/
theorem nodup_sites_callsAt : ((callsAt registrations tree node).map Call.site).Nodup := by
  have places : (registrations.zipIdx.map (·.2)).Nodup := by
    rw [List.zipIdx_map_snd]
    exact List.nodup_range'
  apply List.Nodup.of_map Prod.snd
  unfold callsAt
  rw [List.map_map, List.map_map]
  exact places.sublist (List.filter_sublist.map _)

/-- Whether the registration at a place is for the kind of a node. -/
def concerns (registrations : List Registration) (tree : Tree) (node : NodeId) (place : Nat) :
    Bool :=
  registrations[place]?.any fun registration => tree.kind? node = some registration.kind

theorem mem_sites_callsAt_iff {visited : NodeId} :
    (node, place) ∈ (callsAt registrations tree visited).map Call.site ↔
      visited = node ∧ concerns registrations tree node place = true := by
  unfold concerns
  simp only [List.mem_map, mem_callsAt_iff, Call.site, Prod.mk.injEq, Option.any_eq_true,
    decide_eq_true_eq]
  constructor
  · rintro ⟨call, ⟨rfl, found, kind⟩, rfl, rfl⟩
    exact ⟨rfl, call.registration, found, kind⟩
  · rintro ⟨rfl, registration, found, kind⟩
    exact ⟨⟨visited, registration, place⟩, ⟨rfl, found, kind⟩, rfl, rfl⟩

/-- **One call for each visit and each registration.** A registration is called for a node of its
kind as often as the node is visited, and for no other node. -/
theorem count_calls (registrations : List Registration) (tree : Tree) (node : NodeId)
    (place : Nat) :
    ((calls registrations tree).map Call.site).count (node, place) =
      if concerns registrations tree node place then (tree.walk tree.root).count node else 0 := by
  unfold calls
  induction tree.walk tree.root with
  | nil => simp
  | cons visited rest ih =>
      rw [List.flatMap_cons, List.map_append, List.count_append, ih, nodup_sites_callsAt.count]
      simp only [mem_sites_callsAt_iff]
      by_cases concerned : concerns registrations tree node place = true
      · by_cases same : visited = node
        · simp [concerned, same, Nat.add_comm]
        · simp [concerned, same]
      · simp [concerned]

/-! ### Requests -/

/-- What a dispatcher is asked: to scan a tree, or to take one more consumer. -/
inductive Request where
  | scan (tree : Tree) (filePath : String)
  | register (kind : Kind) (consumer : Consumer)

/-- What a dispatcher answers. -/
inductive Reply where
  | found (result : Except CheckError (List Issue))
  | registered (result : Except RegistrationError Unit)
deriving DecidableEq

/-- Serves a request. A registration changes the dispatcher unless it is refused. -/
def serve : Request → StateM Dispatcher Reply
  | .scan tree filePath => do return .found ((← get).scan tree filePath)
  | .register kind consumer => do
    match (← get).register kind consumer with
    | .ok dispatcher =>
      set dispatcher
      return .registered (.ok ())
    | .error error => return .registered (.error error)

/-- How a dispatcher answers for which no check is being set up. -/
def reply (dispatcher : Dispatcher) : Request → Reply
  | .scan tree filePath => .found (dispatcher.scan tree filePath)
  | .register _ _ => .registered (.error .closed)

/-- A request leaves the dispatcher as it is. -/
theorem run_serve (closed : dispatcher.current = none) (request : Request) :
    (serve request).run dispatcher = (dispatcher.reply request, dispatcher) := by
  cases request with
  | scan tree filePath => rfl
  | register kind consumer =>
      unfold serve
      rw [StateT.run_bind, StateT.run_get]
      simp only [pure_bind, register_of_closed closed]
      rfl

/-- So do any number of requests. -/
theorem run_mapM_serve (closed : dispatcher.current = none) (requests : List Request) :
    (requests.mapM serve).run dispatcher = (requests.map dispatcher.reply, dispatcher) := by
  induction requests with
  | nil => rfl
  | cons request rest ih =>
      rw [List.mapM_cons, StateT.run_bind, run_serve closed]
      change StateT.run (rest.mapM serve >>= fun replies =>
        pure (dispatcher.reply request :: replies)) dispatcher = _
      rw [StateT.run_bind, ih]
      rfl

end Dispatcher

/-- **What a dispatcher finds.** Once the checks are set up, each by registering its consumers one
after the other, a dispatcher refuses every registration and answers every request as a new one
does. A scan finds what its calls find, in order: the nodes in pre-order, and for a node the
registrations for its kind, check by check. Each registration is called once for each visit to a
node of its kind. -/
theorem Dispatcher.run_serve_ofChecks (checks : List Check) :
    (∀ dispatcher : Dispatcher, ∀ check ∈ checks,
      check.consumers.foldlM
        (fun dispatcher (kind, consumer) => dispatcher.register kind consumer)
        { dispatcher with current := some check.key } = .ok (dispatcher.setUp check)) ∧
    (∀ requests : List Request, (requests.mapM serve).run (ofChecks checks) =
      (requests.map (ofChecks checks).reply, ofChecks checks)) ∧
    (∀ tree filePath, (ofChecks checks).scan tree filePath =
      ((calls (registered checks) tree).mapM (Call.issues tree filePath)).map List.flatten) ∧
    (∀ tree node place, ((calls (registered checks) tree).map Call.site).count (node, place) =
      if concerns (registered checks) tree node place then (tree.walk tree.root).count node
        else 0) ∧
    ∀ tree : Tree, tree.Descending →
      ∀ id, tree.walk id = id :: (tree.children id).flatMap tree.walk := by
  refine ⟨fun dispatcher check _ => foldlM_register dispatcher check, fun requests => ?_,
    fun tree filePath => ?_, count_calls _, fun tree descending id => descending.walk_eq id⟩
  · exact run_mapM_serve rfl requests
  · rw [scan_eq, registrations_ofChecks]

/-- A file that holds two names. -/
def twoNames : Tree :=
  .ofNodes #[⟨.token ⟨.name, "a", ⟨1, 0⟩, ⟨1, 1⟩, 0, []⟩, [], []⟩, ⟨.name "a" false, [], [0]⟩,
    ⟨.token ⟨.name, "b", ⟨1, 4⟩, ⟨1, 5⟩, 1, []⟩, [], []⟩, ⟨.name "b" false, [], [2]⟩,
    ⟨.file none, [], [1, 3]⟩]

theorem descending_twoNames : twoNames.Descending :=
  Tree.descending_of_forall (by decide)

/-- A check with registrations for two kinds, two for one of them. -/
def talkativeCheck : Check :=
  ⟨"first", [(.name, fun _ node => .ok [⟨node, "name"⟩]),
    (.fileInput, fun _ node => .ok [⟨node, "file"⟩]),
    (.name, fun _ node => .ok [⟨node, "again"⟩])]⟩

/-- Two checks that care about names. -/
def talkativeChecks : List Check :=
  [talkativeCheck, ⟨"second", [(.name, fun _ node origin => .ok [⟨node, origin.filePath⟩])]⟩]

/-- The refused registration makes no difference to the second scan. -/
theorem Dispatcher.run_serve_talkativeChecks :
    talkativeCheck ∈ talkativeChecks ∧
      talkativeCheck.consumers.foldlM
        (fun (dispatcher : Dispatcher) (kind, consumer) => dispatcher.register kind consumer)
        ⟨[], some "first"⟩ = .ok (setUp ⟨[], none⟩ talkativeCheck) ∧
      twoNames.Descending ∧ twoNames.walk 4 = [4, 1, 0, 3, 2] ∧
      (([Request.scan twoNames "x", .register .token fun _ node => .ok [⟨node, "late"⟩],
        .scan twoNames "y"].mapM serve).run (ofChecks talkativeChecks)).1 =
        [.found (.ok [⟨"first", "x", 1, 0, "file"⟩, ⟨"first", "x", 1, 0, "name"⟩,
            ⟨"first", "x", 1, 0, "again"⟩, ⟨"second", "x", 1, 0, "x"⟩,
            ⟨"first", "x", 1, 4, "name"⟩, ⟨"first", "x", 1, 4, "again"⟩,
            ⟨"second", "x", 1, 4, "x"⟩]),
          .registered (.error .closed),
          .found (.ok [⟨"first", "y", 1, 0, "file"⟩, ⟨"first", "y", 1, 0, "name"⟩,
            ⟨"first", "y", 1, 0, "again"⟩, ⟨"second", "y", 1, 0, "y"⟩,
            ⟨"first", "y", 1, 4, "name"⟩, ⟨"first", "y", 1, 4, "again"⟩,
            ⟨"second", "y", 1, 4, "y"⟩])] := by
  obtain ⟨setsUp, served, -, -, ordered⟩ := run_serve_ofChecks talkativeChecks
  have member : talkativeCheck ∈ talkativeChecks := List.mem_cons_self
  refine ⟨member, setsUp ⟨[], none⟩ talkativeCheck member, descending_twoNames, ?_, ?_⟩
  · rw [ordered twoNames descending_twoNames]
    decide +kernel
  · rw [served]
    decide +kernel

end StructuralLint
