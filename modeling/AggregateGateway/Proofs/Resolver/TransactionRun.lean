import AggregateGateway.Proofs.Resolver.Receiver
import AggregateGateway.Proofs.Resolver.RemoteCall

/-!
Runs of transactions. A run opens transactions and applies actions to the values of earlier calls, each of them taken as
it is or in its JSON form, so that a run may branch. The value of a call is then the transaction of its branch: it has
the identity and the context with which the branch was opened, the repository of the graph, and the actions along the
branch in their order. No endpoint is asked, and whatever comes later leaves it as it is.
-/

namespace AggregateGateway

open Json

/-! ### Forms of a value -/

/-- How a value is handed on: as it is, or in its JSON form. -/
inductive Form
  | native
  | json

namespace ResolvedValue

def inForm (value : ResolvedValue) : Form → ResolvedValue
  | .native => value
  | .json => .json value.toJson

theorem transactionOn?_inForm (repository : Value) (value : ResolvedValue) (form : Form) :
    (value.inForm form).transactionOn? repository = value.transactionOn? repository := by
  cases form with
  | native => rfl
  | json => exact transactionOn?_toJson repository value

theorem commitResult?_inForm (value : ResolvedValue) (form : Form) :
    (value.inForm form).commitResult? = value.commitResult? := by
  cases form with
  | native => rfl
  | json => exact commitResult?_toJson value

end ResolvedValue

/-! ### The system fields of a graph -/

/-- A commit of the transaction reports success for its identity, whatever form it has, and the fields of the report
read both back. -/
structure Commits (graph : ResolverGraph) (tx : Transaction) : Prop where
  commit : ∀ form args raw,
    graph.resolve transactionType "commit" ((ResolvedValue.transaction tx).inForm form) args raw =
      .done (.ok (.result ⟨tx.id, true⟩))
  id : ∀ form args raw, graph.resolve resultType "id" ((ResolvedValue.result ⟨tx.id, true⟩).inForm form) args raw =
    .done (.ok (.json tx.id.encode))
  success : ∀ form args raw,
    graph.resolve resultType "success" ((ResolvedValue.result ⟨tx.id, true⟩).inForm form) args raw =
      .done (.ok (.json (.bool true)))

namespace ResolverGraph

variable {surface : Surface} {repository : Value} {action : String}

theorem get?_of_fixed {type field : String} {resolver : FieldResolver}
    (h : (fixedField? repository type field).map (·.resolver) = some resolver) :
    (ofSurface surface repository).get? type field = some resolver := by
  rw [get?_ofSurface, h]
  rfl

theorem get?_of_action (h : surface.actions.contains action = true) (hid : action ≠ "id")
    (hcommit : action ≠ "commit") :
    (ofSurface surface repository).get? transactionType action = some (.stage action) := by
  have hfixed : fixedField? repository transactionType action = none := by
    show List.lookup action [("id", _), ("commit", _)] = none
    rw [Entries.lookup_cons_ite, if_neg hid, Entries.lookup_cons_ite, if_neg hcommit]
    rfl
  obtain ⟨spec, hspec⟩ := Option.isSome_iff_exists.mp h
  rw [get?_ofSurface, hfixed, stages, if_pos rfl, OrderedMap.get?_map, hspec]
  rfl

theorem resolve_transact (receiver : ResolvedValue) (args raw : Value) :
    (ofSurface surface repository).resolve queryType "transact" receiver args raw =
      Exchange.freshId.map fun id => .ok (.transaction (.start id repository raw)) := by
  have hg : (ofSurface surface repository).get? queryType "transact" = some (.transact repository) := get?_of_fixed rfl
  rw [resolve, hg]

theorem onTransaction_inForm (graph : ResolverGraph) (type field : String) (tx : Transaction) (form : Form)
    (next : Transaction → Exchange Resolution) :
    graph.onTransaction type field ((ResolvedValue.transaction tx).inForm form) next =
      next (tx.onRepository graph.repository) := by
  rw [onTransaction, ResolvedValue.transactionOn?_inForm]
  rfl

theorem resolve_action (hg : (ofSurface surface repository).get? transactionType action = some (.stage action))
    (tx : Transaction) (form : Form) (args raw : Value) :
    (ofSurface surface repository).resolve transactionType action ((ResolvedValue.transaction tx).inForm form) args
      raw = .done (.ok (.transaction ((tx.onRepository repository).stage action args))) := by
  simp only [resolve, hg, onTransaction_inForm]
  rfl

theorem resolve_action_congr (hg : (ofSurface surface repository).get? transactionType action = some (.stage action))
    (receiver : ResolvedValue) (args raw raw' : Value) :
    (ofSurface surface repository).resolve transactionType action receiver args raw =
      (ofSurface surface repository).resolve transactionType action receiver args raw' := by
  rw [resolve, resolve, hg]

theorem commits (surface : Surface) (repository : Value) (tx : Transaction) :
    Commits (ofSurface surface repository) tx := by
  have hcommit : (ofSurface surface repository).get? transactionType "commit" = some .commit := get?_of_fixed rfl
  have hid : (ofSurface surface repository).get? resultType "id" = some (.resultField .id) := get?_of_fixed rfl
  have hsuccess : (ofSurface surface repository).get? resultType "success" = some (.resultField .success) :=
    get?_of_fixed rfl
  have hreport : ∀ form, ((ResolvedValue.result ⟨tx.id, true⟩).inForm form).commitResult? = some ⟨tx.id, true⟩ :=
    fun form => ResolvedValue.commitResult?_inForm _ form
  constructor
  case commit =>
    intro form args raw
    simp only [resolve, hcommit, onTransaction_inForm]
    rfl
  case id =>
    intro form args raw
    simp only [resolve, hid, hreport]
    rfl
  case success =>
    intro form args raw
    simp only [resolve, hsuccess, hreport]
    rfl

end ResolverGraph

/-! ### Runs -/

/-- A call of a run: it opens a transaction, or applies an action to the value of an earlier call. -/
inductive TransactionCall
  | transact (receiver : ResolvedValue) (args raw : Value)
  | act (action : String) (args : Value) (earlier : Nat) (form : Form) (raw : Value)

namespace TransactionCall

/-- The field that is resolved after the calls with these replies, if there is a value to resolve it on. -/
def fieldCall? (replies : List Reply) : TransactionCall → Option FieldCall
  | transact receiver args raw => some ⟨queryType, "transact", receiver, args, raw⟩
  | act action args earlier form raw =>
    match replies[earlier]? with
    | some ⟨_, .ok value⟩ => some ⟨transactionType, action, value.inForm form, args, raw⟩
    | some ⟨_, .error _⟩ | none => none

/-- An action is one that the aggregate declares, and none that a system field replaces. -/
def Declared (aggregate : AggregateDefinition) : TransactionCall → Prop
  | transact _ _ _ => True
  | act action _ _ _ _ => aggregate.actions.contains action = true ∧ action ≠ "id" ∧ action ≠ "commit"

/-- An action is applied to one of so many earlier calls. -/
def Within (length : Nat) : TransactionCall → Prop
  | transact _ _ _ => True
  | act _ _ earlier _ _ => earlier < length

def forget : TransactionCall → TransactionCall
  | transact receiver args raw => transact receiver args raw
  | act action args earlier form _ => act action args earlier form .null

end TransactionCall

/-- `TransactionRun graph calls replies`: the calls, made one after another, may get these replies. -/
inductive TransactionRun (graph : ResolverGraph) : List TransactionCall → List Reply → Prop
  | nil : TransactionRun graph [] []
  | snoc {calls : List TransactionCall} {replies : List Reply} {call : TransactionCall} {resolved : FieldCall}
      {reply : Reply} : TransactionRun graph calls replies → call.fieldCall? replies = some resolved →
      resolved.Gives graph reply → TransactionRun graph (calls ++ [call]) (replies ++ [reply])

/-- `Branch calls i root raw tasks`: the branch of the call `i` was opened by the call `root`, in the context `raw`, and
`tasks` are the actions along it, in their order. -/
inductive Branch (calls : List TransactionCall) : Nat → Nat → Value → List StagedTask → Prop
  | opened {i : Nat} {receiver : ResolvedValue} {args raw : Value} :
      calls[i]? = some (.transact receiver args raw) → Branch calls i i raw []
  | acted {i earlier root : Nat} {action : String} {args raw later : Value} {form : Form} {tasks : List StagedTask} :
      calls[i]? = some (.act action args earlier form later) → Branch calls earlier root raw tasks →
      Branch calls i root raw (tasks ++ [⟨action, args⟩])

/-- The value of a call is the transaction of its branch. -/
def Recorded (repository : Value) (calls : List TransactionCall) (replies : List Reply) (i : Nat) : Prop :=
  ∃ root raw tasks id, Branch calls i root raw tasks ∧
    replies[root]? = some ⟨[.drawId id], .ok (.transaction (.start id repository raw))⟩ ∧
    ∃ events, replies[i]? = some ⟨events, .ok (.transaction ⟨id, repository, .filter raw, tasks⟩)⟩

/-- What a run has done. -/
structure KeepsTasks (graph : ResolverGraph) (calls : List TransactionCall) (replies : List Reply) : Prop where
  recorded : ∀ i < calls.length, Recorded graph.repository calls replies i
  /-- Nothing is asked for but identities. -/
  silent : ∀ reply ∈ replies, ∀ event ∈ reply.events, ∃ id, event = .drawId id
  /-- The first calls got their replies without those that came after them. -/
  kept : ∀ n, TransactionRun graph (calls.take n) (replies.take n)
  /-- With other contexts for the actions the replies are the same. -/
  contextless : ∀ others, others.map TransactionCall.forget = calls.map TransactionCall.forget →
    TransactionRun graph others replies
  committed : ∀ reply ∈ replies, ∀ tx, reply.outcome = .ok (.transaction tx) → Commits graph tx
  /-- Any call on an earlier value can be made next. -/
  continues : ∀ call : TransactionCall, call.Within calls.length →
    ∃ resolved reply, call.fieldCall? replies = some resolved ∧ resolved.Gives graph reply

/-! ### A longer run -/

theorem getElem?_append_of_some {α : Type} {l : List α} {i : Nat} {x : α} (h : l[i]? = some x) (more : List α) :
    (l ++ more)[i]? = some x := by
  obtain ⟨hi, -⟩ := List.getElem?_eq_some_iff.mp h
  rw [List.getElem?_append_left hi, h]

theorem Branch.append {calls : List TransactionCall} {i root : Nat} {raw : Value} {tasks : List StagedTask}
    (h : Branch calls i root raw tasks) (more : List TransactionCall) : Branch (calls ++ more) i root raw tasks := by
  induction h with
  | opened hcall => exact .opened (getElem?_append_of_some hcall more)
  | acted hcall _ ih => exact .acted (getElem?_append_of_some hcall more) ih

theorem Recorded.append {repository : Value} {calls : List TransactionCall} {replies : List Reply} {i : Nat}
    (h : Recorded repository calls replies i) (call : TransactionCall) (reply : Reply) :
    Recorded repository (calls ++ [call]) (replies ++ [reply]) i := by
  obtain ⟨root, raw, tasks, id, hbranch, hroot, events, hi⟩ := h
  exact ⟨root, raw, tasks, id, hbranch.append _, getElem?_append_of_some hroot _, events,
    getElem?_append_of_some hi _⟩

namespace TransactionRun

variable {graph : ResolverGraph} {calls : List TransactionCall} {replies : List Reply}

theorem length_eq (h : TransactionRun graph calls replies) : replies.length = calls.length := by
  induction h with
  | nil => rfl
  | snoc _ _ _ ih => simp [ih]

theorem take (h : TransactionRun graph calls replies) (n : Nat) :
    TransactionRun graph (calls.take n) (replies.take n) := by
  induction h with
  | nil => simpa using nil
  | @snoc calls replies call resolved reply hrun hcall hgives ih =>
    have hlen := hrun.length_eq
    by_cases hn : n ≤ calls.length
    · rw [List.take_append_of_le_length hn, List.take_append_of_le_length (hlen ▸ hn)]
      exact ih
    · rw [List.take_of_length_le (by simp; omega), List.take_of_length_le (by simp; omega)]
      exact hrun.snoc hcall hgives

end TransactionRun

/-! ### One call -/

section
variable {aggregate : AggregateDefinition} {repository : Value} {replies : List Reply} {reply : Reply}

theorem get?_of_declared {action : String} (h : aggregate.actions.contains action = true ∧ action ≠ "id" ∧
    action ≠ "commit") : (ResolverGraph.ofSurface (.ofAggregate aggregate) repository).get? transactionType action =
      some (.stage action) := by
  refine ResolverGraph.get?_of_action ?_ h.2.1 h.2.2
  rw [OrderedMap.contains, Surface.ofAggregate, AggregateDefinition.actionFields, OrderedMap.get?_map,
    Option.isSome_map]
  exact h.1

theorem reply_of_transact {surface : Surface} {receiver : ResolvedValue} {args raw : Value}
    (h : FieldCall.Gives (.ofSurface surface repository) ⟨queryType, "transact", receiver, args, raw⟩ reply) :
    ∃ id, reply = ⟨[.drawId id], .ok (.transaction (.start id repository raw))⟩ := by
  obtain ⟨events, outcome⟩ := reply
  rw [FieldCall.Gives, FieldCall.exchange, ResolverGraph.resolve_transact] at h
  obtain ⟨id, hdrawn, rfl⟩ := Exchange.run_map_iff.mp h
  obtain rfl := Exchange.run_freshId_iff.mp hdrawn
  exact ⟨id, rfl⟩

theorem reply_of_action {surface : Surface} {action : String} {tx : Transaction} {form : Form} {args raw : Value}
    (hg : (ResolverGraph.ofSurface surface repository).get? transactionType action = some (.stage action))
    (h : FieldCall.Gives (.ofSurface surface repository)
      ⟨transactionType, action, (ResolvedValue.transaction tx).inForm form, args, raw⟩ reply) :
    reply = ⟨[], .ok (.transaction ((tx.onRepository repository).stage action args))⟩ := by
  obtain ⟨events, outcome⟩ := reply
  rw [FieldCall.Gives, FieldCall.exchange, ResolverGraph.resolve_action hg] at h
  obtain ⟨rfl, rfl⟩ := Exchange.run_done_iff.mp h
  rfl

theorem fieldCall?_act_eq_some {action : String} {args raw : Value} {earlier : Nat} {form : Form}
    {resolved : FieldCall}
    (h : (TransactionCall.act action args earlier form raw).fieldCall? replies = some resolved) :
    ∃ events value, replies[earlier]? = some ⟨events, .ok value⟩ ∧
      resolved = ⟨transactionType, action, value.inForm form, args, raw⟩ := by
  rw [TransactionCall.fieldCall?] at h
  split at h
  · next events value hvalue =>
    cases h
    exact ⟨events, value, hvalue, rfl⟩
  · cases h
  · cases h

end

/-! ### Whole runs -/

section
variable {aggregate : AggregateDefinition} {repository : Value} {calls : List TransactionCall} {replies : List Reply}

/-- One call more: its value is the transaction of its branch, and no endpoint is asked. -/
theorem recorded_snoc {call : TransactionCall} {resolved : FieldCall} {reply : Reply}
    (hlen : replies.length = calls.length) (hrecorded : ∀ i < calls.length, Recorded repository calls replies i)
    (hdeclared : call.Declared aggregate) (hcall : call.fieldCall? replies = some resolved)
    (hgives : resolved.Gives (.ofSurface (.ofAggregate aggregate) repository) reply) :
    Recorded repository (calls ++ [call]) (replies ++ [reply]) calls.length ∧
      ∀ event ∈ reply.events, ∃ id, event = .drawId id := by
  have hlast : (calls ++ [call])[calls.length]? = some call := List.getElem?_concat_length
  have hreply : (replies ++ [reply])[calls.length]? = some reply := hlen ▸ List.getElem?_concat_length
  cases call with
  | transact receiver args raw =>
    cases hcall
    obtain ⟨id, rfl⟩ := reply_of_transact hgives
    exact ⟨⟨_, raw, [], id, .opened hlast, hreply, _, hreply⟩, by simp⟩
  | act action args earlier form raw =>
    obtain ⟨events, value, hvalue, rfl⟩ := fieldCall?_act_eq_some hcall
    obtain ⟨hearlier, -⟩ := List.getElem?_eq_some_iff.mp hvalue
    obtain ⟨root, opening, tasks, id, hbranch, hroot, before, hbefore⟩ := hrecorded earlier (hlen ▸ hearlier)
    -- The value that the action is applied to is the transaction of the branch up to there.
    cases hvalue.symm.trans hbefore
    cases reply_of_action (get?_of_declared hdeclared) hgives
    exact ⟨⟨root, opening, _, id, .acted hlast (hbranch.append _), getElem?_append_of_some hroot _, _, hreply⟩,
      by simp⟩

theorem recorded_of_run (hdeclared : ∀ call ∈ calls, call.Declared aggregate)
    (h : TransactionRun (.ofSurface (.ofAggregate aggregate) repository) calls replies) :
    (∀ i < calls.length, Recorded repository calls replies i) ∧
      ∀ reply ∈ replies, ∀ event ∈ reply.events, ∃ id, event = .drawId id := by
  induction h with
  | nil => simp
  | @snoc calls replies call resolved reply hrun hcall hgives ih =>
    obtain ⟨hcalls, hlast⟩ := List.forall_mem_append.mp hdeclared
    obtain ⟨hrecorded, hsilent⟩ := ih hcalls
    obtain ⟨hnew, hevents⟩ :=
      recorded_snoc hrun.length_eq hrecorded (List.forall_mem_singleton.mp hlast) hcall hgives
    refine ⟨fun i hi => ?_, List.forall_mem_append.mpr ⟨hsilent, List.forall_mem_singleton.mpr hevents⟩⟩
    rw [List.length_append, List.length_singleton] at hi
    by_cases hold : i < calls.length
    · exact (hrecorded i hold).append call reply
    · rw [show i = calls.length by omega]
      exact hnew

theorem fieldCall?_of_forget {call other : TransactionCall} {resolved : FieldCall} {reply : Reply}
    (hdeclared : call.Declared aggregate) (hforget : other.forget = call.forget)
    (hcall : call.fieldCall? replies = some resolved)
    (hgives : resolved.Gives (.ofSurface (.ofAggregate aggregate) repository) reply) :
    ∃ resolved', other.fieldCall? replies = some resolved' ∧
      resolved'.Gives (.ofSurface (.ofAggregate aggregate) repository) reply := by
  cases call with
  | transact receiver args raw =>
    cases other with
    | transact _ _ _ =>
      cases hforget
      exact ⟨resolved, hcall, hgives⟩
    | act _ _ _ _ _ => cases hforget
  | act action args earlier form raw =>
    cases other with
    | transact _ _ _ => cases hforget
    | act _ _ _ _ raw' =>
      cases hforget
      obtain ⟨events, value, hvalue, rfl⟩ := fieldCall?_act_eq_some hcall
      refine ⟨⟨transactionType, action, value.inForm form, args, raw'⟩, ?_, ?_⟩
      · rw [TransactionCall.fieldCall?, hvalue]
      · rw [FieldCall.Gives, FieldCall.exchange] at hgives ⊢
        rw [ResolverGraph.resolve_action_congr (get?_of_declared hdeclared) _ _ raw' raw]
        exact hgives

theorem run_of_forget {others : List TransactionCall} (hdeclared : ∀ call ∈ calls, call.Declared aggregate)
    (h : TransactionRun (.ofSurface (.ofAggregate aggregate) repository) calls replies)
    (hforget : others.map TransactionCall.forget = calls.map TransactionCall.forget) :
    TransactionRun (.ofSurface (.ofAggregate aggregate) repository) others replies := by
  induction h generalizing others with
  | nil =>
    rw [List.map_eq_nil_iff.mp hforget]
    exact .nil
  | snoc _ hcall hgives ih =>
    obtain ⟨hcalls, hlast⟩ := List.forall_mem_append.mp hdeclared
    rw [List.map_append] at hforget
    obtain ⟨before, last, rfl, hbefore, hlastf⟩ := List.map_eq_append_iff.mp hforget
    obtain ⟨other, rfl, hother⟩ := List.map_eq_singleton_iff.mp hlastf
    obtain ⟨resolved', hcall', hgives'⟩ :=
      fieldCall?_of_forget (List.forall_mem_singleton.mp hlast) hother hcall hgives
    exact .snoc (ih hcalls hbefore) hcall' hgives'

theorem exists_reply (graph : ResolverGraph) (hrecorded : ∀ i < calls.length, Recorded repository calls replies i)
    {call : TransactionCall} (hwithin : call.Within calls.length) :
    ∃ resolved reply, call.fieldCall? replies = some resolved ∧ resolved.Gives graph reply := by
  -- Whatever is asked, somebody answers.
  have hgives : ∀ resolved : FieldCall, ∃ reply, resolved.Gives graph reply := fun resolved => by
    obtain ⟨events, hrun, -⟩ := Exchange.exists_run ⟨fun _ => .ok none, fun _ _ => .ok {}, fun _ => .error "", .zero, 0⟩
      (resolved.exchange graph)
    exact ⟨⟨events, _⟩, hrun⟩
  cases call with
  | transact receiver args raw =>
    obtain ⟨reply, h⟩ := hgives ⟨queryType, "transact", receiver, args, raw⟩
    exact ⟨_, reply, rfl, h⟩
  | act action args earlier form raw =>
    obtain ⟨_, _, _, _, -, -, _, hvalue⟩ := hrecorded earlier hwithin
    obtain ⟨reply, h⟩ := hgives ⟨transactionType, action, ResolvedValue.inForm (.transaction _) form, args, raw⟩
    exact ⟨_, reply, by rw [TransactionCall.fieldCall?, hvalue], h⟩

end

/-- In every run of declared actions, each value is the transaction of its branch. -/
theorem transaction_runs_keep_tasks (aggregate : AggregateDefinition) (repository : Value)
    {calls : List TransactionCall} {replies : List Reply} (hdeclared : ∀ call ∈ calls, call.Declared aggregate)
    (h : TransactionRun (.ofSurface (.ofAggregate aggregate) repository) calls replies) :
    KeepsTasks (.ofSurface (.ofAggregate aggregate) repository) calls replies := by
  obtain ⟨hrecorded, hsilent⟩ := recorded_of_run hdeclared h
  constructor
  case recorded => exact hrecorded
  case silent => exact hsilent
  case kept => exact h.take
  case contextless => exact fun others => run_of_forget hdeclared h
  case committed => exact fun reply _ tx _ => ResolverGraph.commits _ repository tx
  case continues => exact fun call => exists_reply _ hrecorded

/-- A run on orders that branches: one order is placed on the JSON form of the transaction, another one on the
transaction itself. -/
theorem orders_run_branches :
    let aggregate : AggregateDefinition := { actions := .ofList [("place", {})] }
    let graph := ResolverGraph.ofSurface (.ofAggregate aggregate) (.string "orders")
    let calls : List TransactionCall := [.transact .root .null .null, .act "place" (.string "a") 0 .json .null,
      .act "place" (.string "b") 0 .native (.string "later")]
    let tx := Transaction.start .zero (.string "orders") .null
    let replies : List Reply := [⟨[.drawId .zero], .ok (.transaction tx)⟩,
      ⟨[], .ok (.transaction (tx.stage "place" (.string "a")))⟩,
      ⟨[], .ok (.transaction (tx.stage "place" (.string "b")))⟩]
    (∀ call ∈ calls, call.Declared aggregate) ∧ TransactionRun graph calls replies ∧
      KeepsTasks graph calls replies := by
  intro aggregate graph calls tx replies
  have hdeclared : ∀ call ∈ calls, call.Declared aggregate := by
    have hplace : aggregate.actions.contains "place" = true ∧ "place" ≠ "id" ∧ "place" ≠ "commit" := by decide
    simpa [calls, TransactionCall.Declared] using hplace
  have hg : graph.get? transactionType "place" = some (.stage "place") := rfl
  have htx : ∀ form, ((ResolvedValue.transaction tx).inForm form).transactionOn? graph.repository = some tx :=
    fun form => ResolvedValue.transactionOn?_inForm _ _ form
  have hopened : FieldCall.Gives graph ⟨queryType, "transact", .root, .null, .null⟩ replies[0] :=
    Resolves.run (.opened .zero rfl)
  have hfirst : FieldCall.Gives graph
      ⟨transactionType, "place", (ResolvedValue.transaction tx).inForm .json, .string "a", .null⟩ replies[1] :=
    Resolves.run (.staged hg (htx .json))
  have hsecond : FieldCall.Gives graph
      ⟨transactionType, "place", (ResolvedValue.transaction tx).inForm .native, .string "b", .string "later"⟩
      replies[2] :=
    Resolves.run (.staged hg (htx .native))
  have hrun : TransactionRun graph calls replies :=
    ((TransactionRun.nil.snoc rfl hopened).snoc rfl hfirst).snoc rfl hsecond
  exact ⟨hdeclared, hrun, transaction_runs_keep_tasks aggregate (.string "orders") hdeclared hrun⟩

end AggregateGateway
