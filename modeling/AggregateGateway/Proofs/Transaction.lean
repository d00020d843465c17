import AggregateGateway.Proofs.Json.Encoding
import AggregateGateway.Proofs.Uuid
import AggregateGateway.Transaction

/-!
Transactions and results of commits in their JSON forms. Decoding undoes encoding, neither form is read as the other,
and an object is read as a transaction by four members: a snapshot of its context is projected, and whatever else it
holds is passed over.
-/

namespace AggregateGateway

open Json

/-! ### Contexts -/

namespace ContextSnapshot

theorem filter_encode (snapshot : ContextSnapshot) : filter snapshot.encode = snapshot :=
  ContextSnapshot.ext (Entries.filterMap_lookup (by decide) snapshot.listed)

/-- Reading a snapshot back projects it again, which changes nothing. -/
theorem decode_encode (snapshot : ContextSnapshot) : decode snapshot.encode = .ok snapshot := by
  rw [decode, filter_encode]

theorem mem_contextKeys {snapshot : ContextSnapshot} {key : String} (h : key ∈ snapshot.keys) : key ∈ contextKeys :=
  snapshot.listed.subset h

end ContextSnapshot

/-! ### Round trips -/

theorem Uuid.decode_encode (id : Uuid) : decode id.encode = .ok id := by
  rw [encode, decode, ofText?_toText]

theorem StagedTask.decode_encode (task : StagedTask) : decode task.encode = .ok task := by
  exact Record.decode_of_sets (by decide) (.set rfl (.set rfl .nil))

theorem CommitResult.decode_encode (result : CommitResult) : decode result.encode = .ok result := by
  have hid := Uuid.decode_encode result.id
  exact Record.decode_of_sets (by decide) (.set (bind_of_ok hid _) (.set rfl .nil))

theorem Transaction.decode_encode (tx : Transaction) : decode tx.encode = .ok tx := by
  have hid := Uuid.decode_encode tx.id
  have hctxt := ContextSnapshot.decode_encode tx.ctxt
  have htasks := Value.decodeList_encode StagedTask.decode_encode tx.tasks
  refine Record.decode_of_sets (by decide) (.set (bind_of_ok hid _) (.set rfl ?_))
  exact .set (bind_of_ok hctxt _) (.set (bind_of_ok htasks _) .nil)

/-! ### One form is not the other -/

/-- A transaction says nothing of success. -/
theorem CommitResult.toOption_decode_transaction (tx : Transaction) : (decode tx.encode).toOption = none := by
  have hsuccess : ∃ field ∈ record.fields, field.required = true ∧ field.name = "success" := by simp [record]
  obtain ⟨field, hfield, hrequired, hname⟩ := hsuccess
  exact Record.toOption_decode_of_missing hfield hrequired (by rw [hname]; rfl)

/-- The result of a commit names no repository. -/
theorem Transaction.toOption_decode_result (result : CommitResult) : (decode result.encode).toOption = none := by
  have hrepository : ∃ field ∈ record.fields, field.required = true ∧ field.name = "repository" := by simp [record]
  obtain ⟨field, hfield, hrequired, hname⟩ := hrepository
  exact Record.toOption_decode_of_missing hfield hrequired (by rw [hname]; rfl)

/-! ### Objects as transactions -/

namespace Transaction

theorem record_independent : record.Independent where
  distinct := by decide
  commute := by
    -- Each field against those after it; only identities and tasks may fail to decode.
    refine .cons ?_ (.cons ?_ (.cons ?_ (.cons ?_ .nil)))
    · simp only [List.forall_mem_cons, Field.Commutes, assign]
      refine ⟨fun _ v _ => ?_, fun _ v _ => ?_, fun _ v w => ?_, by simp⟩
      · cases Uuid.decode v <;> rfl
      · cases Uuid.decode v <;> rfl
      · cases Uuid.decode v <;> cases w.decodeList StagedTask.decode <;> rfl
    · simp only [List.forall_mem_cons, Field.Commutes, assign]
      refine ⟨fun _ _ _ => rfl, fun _ _ w => ?_, by simp⟩
      cases w.decodeList StagedTask.decode <;> rfl
    · simp only [List.forall_mem_cons, Field.Commutes, assign]
      refine ⟨fun _ _ w => ?_, by simp⟩
      cases w.decodeList StagedTask.decode <;> rfl
    · exact List.forall_mem_nil _

/-- The transaction that a look-up gives: of the repository and the context only that they are there decides. -/
def read? (get : String → Option Value) : Option Transaction := do
  let id ← (get "id").bind fun value => (Uuid.decode value).toOption
  let repository ← get "repository"
  let ctxt ← get "ctxt"
  let tasks ← (get "tasks").bind fun value => (value.decodeList StagedTask.decode).toOption
  return ⟨id, repository, .filter ctxt, tasks⟩

theorem toOption_decode_object (m : OrderedMap Value) : (decode (.object m.entries)).toOption = read? m.get? := by
  rw [decode, Record.toOption_decode_object record_independent]
  simp only [Record.read?, record, List.foldlM_cons, List.foldlM_nil, assign, read?]
  cases m.get? "id" with
  | none => rfl
  | some id =>
    rw [Option.bind_some]
    dsimp only
    cases Uuid.decode id with
    | error _ => rfl
    | ok id =>
      cases m.get? "repository" with
      | none => rfl
      | some repository =>
        cases m.get? "ctxt" with
        | none => rfl
        | some ctxt =>
          cases m.get? "tasks" with
          | none => rfl
          | some tasks =>
            rw [Option.bind_some]
            dsimp only
            cases tasks.decodeList StagedTask.decode <;> rfl

end Transaction

end AggregateGateway
