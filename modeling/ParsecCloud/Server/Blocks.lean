import ParsecCloud.Server.EnrollmentCalls
import ParsecCloud.Server.Effects
import ParsecCloud.Lib.Runs
import Mathlib.Logic.Function.Basic

/- The blocks of an organization (memory/block.py). A creation makes its checks, waits for the block
   store, then registers the block; its locks are shared, so that others go on meanwhile. -/
namespace ParsecCloud.Server
open Certif Rust OrganizationCall Runs

structure BlockCreate where
  now : DateTime
  author : DeviceID
  realmId : VlobID
  blockId : BlockID
  keyIndex : Nat
  block : List Byte

namespace BlockCreate

def registered (call : BlockCreate) : MemoryBlock :=
  ⟨call.realmId, call.blockId, call.keyIndex, call.author, call.block.length, call.now⟩

def check (call : BlockCreate) (org : ServedOrganization) : Except Refusal Unit :=
  createBlockCheck org call.author call.realmId call.blockId call.keyIndex

end BlockCreate

/-- A creation that waits for the block store, which may have written the block. -/
structure WaitingCreate where
  call : BlockCreate
  written : Bool

/-- The creations that wait, by task, and those that have returned success. -/
structure BlockServer where
  org : ServedOrganization
  waiting : Nat → Option WaitingCreate
  created : List BlockCreate

inductive BlockStep where
  | begins (task : Nat) (call : BlockCreate)
  | writes (task : Nat)
  | fails (task : Nat)
  | succeeds (task : Nat)
  | elsewhere (org : ServedOrganization)

namespace BlockServer

/-- The block store answers success once it has written the block; it may answer a failure either
    way. The rest of the server does not touch the blocks. -/
inductive Step (s : BlockServer) : BlockStep → BlockServer → Prop where
  | refused (task : Nat) {call : BlockCreate} {refusal : Refusal}
      (checked : call.check s.org = .error refusal) : Step s (.begins task call) s
  | begins (task : Nat) {call : BlockCreate} (unused : s.waiting task = none)
      (checked : call.check s.org = .ok ()) :
      Step s (.begins task call)
        { s with waiting := Function.update s.waiting task (some ⟨call, false⟩) }
  | writes (task : Nat) {waiting : WaitingCreate} (waits : s.waiting task = some waiting) :
      Step s (.writes task) { s with
        org := { s.org with
          blockStore := s.org.blockStore.set waiting.call.blockId waiting.call.block }
        waiting := Function.update s.waiting task (some ⟨waiting.call, true⟩) }
  | fails (task : Nat) {waiting : WaitingCreate} (waits : s.waiting task = some waiting) :
      Step s (.fails task) { s with waiting := Function.update s.waiting task none }
  | succeeds (task : Nat) {call : BlockCreate} (waits : s.waiting task = some ⟨call, true⟩) :
      Step s (.succeeds task) {
        org := { s.org with blocks := s.org.blocks.set call.blockId call.registered }
        waiting := Function.update s.waiting task none
        created := call :: s.created }
  | elsewhere {org : ServedOrganization} (blocks : org.blocks = s.org.blocks)
      (blockStore : org.blockStore = s.org.blockStore) :
      Step s (.elsewhere org) { s with org := org }

end BlockServer

structure BlockReadResult where
  block : List Byte
  keyIndex : Nat
  neededRealmCertificateTimestamp : DateTime

inductive BlockReadBadOutcome where
  | authorNotFound
  | realmNotFound
  | blockNotFound
  | authorNotAllowed
  | storeUnavailable
  | raised (error : Raised)

/-- The checks of a read, with the realm and the block it is for. -/
def readBlockCheck (org : ServedOrganization) (author : DeviceID) (realmId : VlobID)
    (blockId : BlockID) : Except BlockReadBadOutcome (MemoryRealm × MemoryBlock) := do
  match org.devices.get? author with
  | none => throw .authorNotFound
  | some authorDevice =>
    match org.realms.get? realmId with
    | none => throw .realmNotFound
    | some realm =>
      match org.blocks.get? blockId with
      | none => throw .blockNotFound
      | some blockInfo =>
        refuse (blockInfo.realmId ≠ realmId) .blockNotFound
        refuse (realm.getCurrentRoleFor authorDevice.cooked.userId).isNone .authorNotAllowed
        return (realm, blockInfo)

/-- The end of a read, in the state where the block store has answered. -/
def readBlockAnswer (org : ServedOrganization) (realm : MemoryRealm) (blockId : BlockID)
    (blockInfo : MemoryBlock) : Except BlockReadBadOutcome BlockReadResult :=
  match org.blockStore.get? blockId with
  | none => .error .storeUnavailable
  | some block =>
    match org.perTopicLastTimestamp (.realm realm.realmId) with
    | none => .error (.raised .keyError)
    | some timestamp => .ok ⟨block, blockInfo.keyIndex, timestamp⟩

/-- No other creation of the block waits when one has made its checks. -/
def Alone (s : BlockServer) : BlockStep → Prop
  | .begins _ call => call.check s.org = .ok () →
    ∀ task waiting, s.waiting task = some waiting → waiting.call.blockId ≠ call.blockId
  | _ => True

variable {s s' : BlockServer} {event : BlockStep}

/-- The block is there, with what it was created with. -/
def BlockStored (s : BlockServer) (call : BlockCreate) : Prop :=
  s.org.blocks.get? call.blockId = some call.registered ∧
    s.org.blockStore.get? call.blockId = some call.block

structure BlockInvariant (s : BlockServer) : Prop where
  apart : ∀ task task' waiting waiting', s.waiting task = some waiting →
    s.waiting task' = some waiting' → waiting.call.blockId = waiting'.call.blockId → task = task'
  absent : ∀ task waiting, s.waiting task = some waiting →
    s.org.blocks.get? waiting.call.blockId = none
  written : ∀ task call, s.waiting task = some ⟨call, true⟩ →
    s.org.blockStore.get? call.blockId = some call.block
  stored : ∀ call ∈ s.created, BlockStored s call
  once : (s.created.map BlockCreate.blockId).Nodup

theorem check_absent {call : BlockCreate} {org : ServedOrganization}
    (checked : call.check org = .ok ()) : org.blocks.get? call.blockId = none := by
  unfold BlockCreate.check createBlockCheck at checked
  split at checked
  · cases checked
  · obtain ⟨_, -, checked⟩ := bind_eq_ok.mp checked
    obtain ⟨_, -, checked⟩ := bind_eq_ok.mp checked
    obtain ⟨_, -, absent⟩ := bind_eq_ok.mp checked
    rw [refuse_eq_ok, Option.isSome_eq_false_iff, Option.isNone_iff_eq_none] at absent
    exact absent

section Tasks
variable {α : Type} {waiting : Nat → Option α} {task task' : Nat} {new found : α}

theorem update_some (isFound : Function.update waiting task (some new) task' = some found) :
    task' = task ∧ found = new ∨ waiting task' = some found := by
  rw [Function.update_apply] at isFound
  split at isFound
  · rename_i same
    cases isFound
    exact Or.inl ⟨same, rfl⟩
  · exact Or.inr isFound

theorem update_none (isFound : Function.update waiting task none task' = some found) :
    task' ≠ task ∧ waiting task' = some found := by
  rw [Function.update_apply] at isFound
  split at isFound
  · cases isFound
  · rename_i apart
    exact ⟨apart, isFound⟩

end Tasks

theorem BlockInvariant.begins (inv : BlockInvariant s) {task : Nat} {call : BlockCreate}
    (checked : call.check s.org = .ok ()) (alone : Alone s (.begins task call)) :
    BlockInvariant { s with waiting := Function.update s.waiting task (some ⟨call, false⟩) } := by
  have others := alone checked
  constructor
  · intro first second waiting waiting' isFirst isSecond same
    rcases update_some isFirst with ⟨rfl, rfl⟩ | wasFirst
    · rcases update_some isSecond with ⟨rfl, rfl⟩ | wasSecond
      · rfl
      · exact absurd same.symm (others second waiting' wasSecond)
    · rcases update_some isSecond with ⟨rfl, rfl⟩ | wasSecond
      · exact absurd same (others first waiting wasFirst)
      · exact inv.apart first second waiting waiting' wasFirst wasSecond same
  · intro other waiting isWaiting
    rcases update_some isWaiting with ⟨rfl, rfl⟩ | isWaiting
    · exact check_absent checked
    · exact inv.absent other waiting isWaiting
  · intro other call' isWaiting
    rcases update_some isWaiting with ⟨-, isNew⟩ | isWaiting
    · cases isNew
    · exact inv.written other call' isWaiting
  · exact inv.stored
  · exact inv.once

theorem BlockInvariant.writes (inv : BlockInvariant s) {task : Nat}
    {waiting : WaitingCreate} (waits : s.waiting task = some waiting) :
    BlockInvariant { s with
      org := { s.org with
        blockStore := s.org.blockStore.set waiting.call.blockId waiting.call.block }
      waiting := Function.update s.waiting task (some ⟨waiting.call, true⟩) } := by
  constructor
  · intro first second one other isFirst isSecond same
    rcases update_some isFirst with ⟨rfl, rfl⟩ | wasFirst
    · rcases update_some isSecond with ⟨rfl, rfl⟩ | wasSecond
      · rfl
      · exact inv.apart _ second waiting other waits wasSecond same
    · rcases update_some isSecond with ⟨rfl, rfl⟩ | wasSecond
      · exact inv.apart first _ one waiting wasFirst waits same
      · exact inv.apart first second one other wasFirst wasSecond same
  · intro other found isWaiting
    rcases update_some isWaiting with ⟨rfl, rfl⟩ | isWaiting
    · exact inv.absent _ waiting waits
    · exact inv.absent other found isWaiting
  · intro other call isWaiting
    rcases update_some isWaiting with ⟨rfl, isNew⟩ | isWaiting
    · cases isNew
      exact Dict.get?_set_self _ _ _
    · by_cases same : call.blockId = waiting.call.blockId
      · have isTask := inv.apart other task _ waiting isWaiting waits same
        rw [isTask, waits] at isWaiting
        cases isWaiting
        exact Dict.get?_set_self _ _ _
      · rw [Dict.get?_set_of_ne same]
        exact inv.written other call isWaiting
  · intro call isCreated
    obtain ⟨registered, held⟩ := inv.stored call isCreated
    have apart : call.blockId ≠ waiting.call.blockId := by
      intro same
      rw [same, inv.absent task waiting waits] at registered
      cases registered
    exact ⟨registered, by rw [Dict.get?_set_of_ne apart]; exact held⟩
  · exact inv.once

theorem BlockInvariant.fails (inv : BlockInvariant s) (task : Nat) :
    BlockInvariant { s with waiting := Function.update s.waiting task none } := by
  constructor
  · intro first second one other isFirst isSecond same
    exact inv.apart first second one other (update_none isFirst).2 (update_none isSecond).2
      same
  · intro other waiting isWaiting
    exact inv.absent other waiting (update_none isWaiting).2
  · intro other call isWaiting
    exact inv.written other call (update_none isWaiting).2
  · exact inv.stored
  · exact inv.once

theorem BlockInvariant.succeeds (inv : BlockInvariant s) {task : Nat} {call : BlockCreate}
    (waits : s.waiting task = some ⟨call, true⟩) :
    BlockInvariant {
      org := { s.org with blocks := s.org.blocks.set call.blockId call.registered }
      waiting := Function.update s.waiting task none
      created := call :: s.created } := by
  have fresh : ∀ created ∈ s.created, created.blockId ≠ call.blockId := by
    intro created isCreated same
    have registered := (inv.stored created isCreated).1
    rw [same, inv.absent task _ waits] at registered
    cases registered
  constructor
  · exact (inv.fails task).apart
  · intro other waiting isWaiting
    obtain ⟨otherTask, isWaiting⟩ := update_none isWaiting
    have apart : waiting.call.blockId ≠ call.blockId := by
      intro same
      exact otherTask (inv.apart other task waiting _ isWaiting waits same)
    rw [Dict.get?_set_of_ne apart]
    exact inv.absent other waiting isWaiting
  · exact (inv.fails task).written
  · intro created isCreated
    rcases List.mem_cons.mp isCreated with rfl | isCreated
    · exact ⟨Dict.get?_set_self _ _ _, inv.written task _ waits⟩
    · obtain ⟨registered, held⟩ := inv.stored created isCreated
      refine ⟨?_, held⟩
      rw [Dict.get?_set_of_ne (fresh created isCreated)]
      exact registered
  · rw [List.map_cons, List.nodup_cons]
    refine ⟨?_, inv.once⟩
    intro member
    obtain ⟨created, isCreated, same⟩ := List.mem_map.mp member
    exact fresh created isCreated same

theorem BlockInvariant.step (inv : BlockInvariant s) (alone : Alone s event)
    (taken : s.Step event s') : BlockInvariant s' := by
  cases taken with
  | refused => exact inv
  | begins task unused checked => exact inv.begins checked alone
  | writes task waits => exact inv.writes waits
  | fails task => exact inv.fails task
  | succeeds task waits => exact inv.succeeds waits
  | elsewhere blocks blockStore =>
    constructor
    · exact inv.apart
    · rw [blocks]
      exact inv.absent
    · rw [blockStore]
      exact inv.written
    · unfold BlockStored
      rw [blocks, blockStore]
      exact inv.stored
    · exact inv.once

/-- Block creation as it should be: at most one success for a block, that every later read gives
    back. -/
structure BlocksExclusive (s : BlockServer) : Prop where
  once : (s.created.map BlockCreate.blockId).Nodup
  readable : ∀ call ∈ s.created, ∀ author device realm role,
    s.org.devices.get? author = some device → s.org.realms.get? call.realmId = some realm →
    realm.getCurrentRoleFor device.cooked.userId = some role →
    ∃ blockInfo, readBlockCheck s.org author call.realmId call.blockId = .ok (realm, blockInfo) ∧
      blockInfo.keyIndex = call.keyIndex
  answered : ∀ call ∈ s.created, ∀ realm blockInfo timestamp,
    s.org.perTopicLastTimestamp (.realm realm.realmId) = some timestamp →
    readBlockAnswer s.org realm call.blockId blockInfo =
      .ok ⟨call.block, blockInfo.keyIndex, timestamp⟩

theorem BlockInvariant.exclusive (inv : BlockInvariant s) : BlocksExclusive s := by
  constructor
  · exact inv.once
  · intro call isCreated author device realm role isDevice isRealm isRole
    obtain ⟨registered, -⟩ := inv.stored call isCreated
    refine ⟨call.registered, ?_, rfl⟩
    unfold readBlockCheck
    simp [isDevice, isRealm, registered, isRole, BlockCreate.registered, refuse, bind, Except.bind,
      pure, Except.pure]
  · intro call isCreated realm blockInfo timestamp isTimestamp
    obtain ⟨-, held⟩ := inv.stored call isCreated
    simp [readBlockAnswer, held, isTimestamp]

/-- In the runs where no creation passes its checks while another one of the block waits. -/
theorem blocks_exclusive {start : BlockServer} (idle : ∀ task, start.waiting task = none)
    (none : start.created = []) (run : Run BlockServer.Step Alone start s) :
    BlocksExclusive s := by
  apply BlockInvariant.exclusive
  apply run.keeps _ fun _ _ _ inv alone taken => inv.step alone taken
  constructor
  · intro task task' waiting waiting' isWaiting
    rw [idle task] at isWaiting
    cases isWaiting
  · intro task waiting isWaiting
    rw [idle task] at isWaiting
    cases isWaiting
  · intro task call isWaiting
    rw [idle task] at isWaiting
    cases isWaiting
  · intro call isCreated
    rw [none] at isCreated
    cases isCreated
  · rw [none]
    exact List.nodup_nil

/-- Alice owns a realm with one key. -/
def aliceOwns : ServedOrganization := { bootstrappedOrganization with
  devices := Dict.empty.set ⟨1⟩ ⟨⟨.root, 0, ⟨1⟩, ⟨1⟩, ⟨1⟩⟩, [], []⟩
  realms := Dict.empty.set ⟨5⟩ ⟨⟨5⟩, 1, [(⟨⟨1⟩, 1, ⟨5⟩, ⟨1⟩, some .owner⟩, [])], [],
    [⟨⟨⟨1⟩, 2, ⟨5⟩, 1, []⟩, [], .empty, [], none⟩], [], none, .empty⟩ }

/-- Alice creates a block, whatever its content. -/
def aliceCreates (block : List Byte) : BlockCreate := ⟨3, ⟨1⟩, ⟨5⟩, ⟨9⟩, 1, block⟩

def idleBlockServer : BlockServer := ⟨aliceOwns, fun _ => none, []⟩

theorem aliceCreates_checked (block : List Byte) : (aliceCreates block).check aliceOwns = .ok () :=
  rfl

/-- The first creation fails once its block is written, then the block is created again. -/
theorem blocks_exclusive_of_alice :
    ∃ s, BlocksExclusive s ∧ s.created = [aliceCreates [8]] ∧
      s.org.blockStore.get? ⟨9⟩ = some [8] := by
  have alone : Alone idleBlockServer (.begins 0 (aliceCreates [7])) := by
    intro _ task waiting isWaiting
    cases isWaiting
  have begun : Run BlockServer.Step Alone idleBlockServer _ :=
    .step .start alone (.begins 0 rfl (aliceCreates_checked [7]))
  have written : Run BlockServer.Step Alone idleBlockServer _ :=
    .step (t := .writes 0) begun trivial (.writes 0 rfl)
  have failed : Run BlockServer.Step Alone idleBlockServer _ :=
    .step (t := .fails 0) written trivial (.fails 0 rfl)
  obtain ⟨s, run, free, none, checked⟩ : ∃ s, Run BlockServer.Step Alone idleBlockServer s ∧
      (∀ task, s.waiting task = none) ∧ s.created = [] ∧
      (aliceCreates [8]).check s.org = .ok () :=
    ⟨_, failed, by simp [Function.update_apply, idleBlockServer], rfl, rfl⟩
  have aloneAgain : Alone s (.begins 1 (aliceCreates [8])) := by
    intro _ task waiting isWaiting
    rw [free task] at isWaiting
    cases isWaiting
  have begunAgain := run.step aloneAgain (.begins 1 (free 1) checked)
  have writtenAgain : Run BlockServer.Step Alone idleBlockServer _ :=
    .step (t := .writes 1) begunAgain trivial (.writes 1 rfl)
  have done : Run BlockServer.Step Alone idleBlockServer _ :=
    .step (t := .succeeds 1) writtenAgain trivial (.succeeds 1 rfl)
  exact ⟨_, blocks_exclusive (fun _ => rfl) rfl done, by rw [none], by simp [aliceCreates]⟩

/-- Two creations of a block that wait together both succeed. -/
theorem block_created_twice :
    ¬ ∀ start s : BlockServer, (∀ task, start.waiting task = none) → start.created = [] →
      Run BlockServer.Step (fun _ _ => True) start s → BlocksExclusive s := by
  intro claim
  have first : Run BlockServer.Step (fun _ _ => True) idleBlockServer _ :=
    .step .start trivial (.begins 0 rfl (aliceCreates_checked [7]))
  have second : Run BlockServer.Step (fun _ _ => True) idleBlockServer _ :=
    .step first trivial (.begins 1 rfl (aliceCreates_checked [8]))
  have firstWritten : Run BlockServer.Step (fun _ _ => True) idleBlockServer _ :=
    .step second trivial (.writes 0 rfl)
  have firstDone : Run BlockServer.Step (fun _ _ => True) idleBlockServer _ :=
    .step firstWritten trivial (.succeeds 0 rfl)
  have secondWritten : Run BlockServer.Step (fun _ _ => True) idleBlockServer _ :=
    .step firstDone trivial (.writes 1 rfl)
  have secondDone : Run BlockServer.Step (fun _ _ => True) idleBlockServer _ :=
    .step secondWritten trivial (.succeeds 1 rfl)
  have once := (claim _ _ (fun _ => rfl) rfl secondDone).once
  simp [idleBlockServer, aliceCreates] at once

end ParsecCloud.Server
