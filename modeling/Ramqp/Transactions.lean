import Std.Data.String.ToNat
import Ramqp.ProducerCredit

/-! The table of transactions over any sequence of its operations, and what becomes of a discharged one. -/
namespace Ramqp

open Std List Entries ExtTreeMap

def Txn.bytes (t : Txn) : Nat := (t.publishes.map fun p => p.body.length).sum

namespace TxnManager

inductive Op where
  | declare
  | stagePublish (id : TxnId) (publish : StagedPublish)
  | stageSettle (id : TxnId) (settle : StagedSettle)
  | take (id : TxnId)
  | takeAll

def apply (t : TxnManager) : Op → TxnManager
  | .declare => (t.declare.map Prod.snd).getD t
  | .stagePublish id publish => (t.stagePublish id publish).1
  | .stageSettle id settle => (t.stageSettle id settle).1
  | .take id => ((t.take id).map Prod.snd).getD t
  | .takeAll => t.takeAll.2

/-- The operation stages under a transaction that is open, and is refused. -/
def Refuses (t : TxnManager) (id : TxnId) : Op → Prop
  | .stagePublish named publish => named = id ∧ (t.stagePublish id publish).2 = .capped
  | .stageSettle named settle => named = id ∧ (t.stageSettle id settle).2 = .refused settle true
  | _ => False

def total (txns : Map TxnId Txn) : Nat := (txns.toList.map fun entry => entry.2.bytes).sum

variable {t : TxnManager} {id : TxnId} {txn next : Txn} {count bytes : Nat}

/-- What an operation can do to the table. -/
inductive Moves (t : TxnManager) : TxnManager → Prop where
  | same : Moves t t
  | declared (room : ¬maxTxns ≤ t.txns.size) :
      Moves t ⟨t.nextId + 1,t.txns.insert (txnId (t.nextId + 1)) {},t.stagedBytes⟩
  | replaced {id : TxnId} {txn next : Txn} {bytes : Nat} (present : t.txns[id]? = some txn)
      (small : txn.staged ≤ maxStaged → next.staged ≤ maxStaged) (added : bytes + txn.bytes = t.stagedBytes + next.bytes)
      (cap : t.stagedBytes ≤ maxStagedBytes → bytes ≤ maxStagedBytes) (flag : txn.rollbackOnly → next.rollbackOnly) :
      Moves t {t with txns := t.txns.insert id next,stagedBytes := bytes}
  | taken {id : TxnId} {txn : Txn} (present : t.txns[id]? = some txn) :
      Moves t {t with txns := t.txns.erase id,stagedBytes := t.stagedBytes - txn.bytes}
  | cleared : Moves t ⟨t.nextId,∅,0⟩

lemma moves_refused (present : t.txns[id]? = some txn) :
    t.Moves {t with txns := t.txns.insert id {txn with rollbackOnly := true}} :=
  .replaced present (fun small => small) rfl (fun cap => cap) fun _ => rfl

lemma apply_moves (t : TxnManager) (op : Op) : t.Moves (t.apply op) := by
  cases op with
  | declare =>
    unfold TxnManager.apply declare
    split_ifs with full
    · exact .same
    · exact .declared full
  | stagePublish id publish =>
    simp only [TxnManager.apply,stagePublish]
    split
    · exact .same
    rename_i txn present
    split_ifs with fits
    · refine .replaced present (fun _ => ?_) ?_ (fun _ => fits.1) fun flag => flag <;>
        simp [Txn.staged,Txn.bytes] at fits ⊢ <;> omega
    · exact moves_refused present
  | stageSettle id settle =>
    simp only [TxnManager.apply,stageSettle]
    split
    · exact .same
    rename_i txn present
    split_ifs with fits
    · refine .replaced present (fun _ => ?_) rfl (fun cap => cap) fun flag => flag
      simp [Txn.staged] at fits ⊢
      omega
    · exact moves_refused present
  | take id =>
    simp only [TxnManager.apply,take]
    cases present : t.txns[id]? with
    | none => exact .same
    | some txn => exact .taken present
  | takeAll => exact .cleared

lemma Refuses.apply {op : Op} (refuses : t.Refuses id op) : ∃ txn, t.txns[id]? = some txn ∧
    t.apply op = {t with txns := t.txns.insert id {txn with rollbackOnly := true}} := by
  cases op with
  | stagePublish =>
    obtain ⟨rfl,capped⟩ := refuses
    simp only [TxnManager.apply,stagePublish] at capped ⊢
    split at capped
    · cases capped
    rename_i txn present
    split_ifs at capped with fits
    simp only [present,fits,if_false]
    exact ⟨txn,rfl,rfl⟩
  | stageSettle =>
    obtain ⟨rfl,refused⟩ := refuses
    simp only [TxnManager.apply,stageSettle] at refused ⊢
    split at refused
    · cases refused
    rename_i txn present
    split_ifs at refused with fits
    simp only [present,fits,if_false]
    exact ⟨txn,rfl,rfl⟩
  | declare | take | takeAll => cases refuses

/-- What is staged is counted and within its caps, and the counter is ahead of every id. -/
structure Bounded (count : Nat) (t : TxnManager) : Prop where
  bytes : t.stagedBytes = total t.txns
  cap : t.stagedBytes ≤ maxStagedBytes
  txns : t.txns.size ≤ maxTxns
  staged : ∀ (id : TxnId) (txn : Txn), t.txns[id]? = some txn → txn.staged ≤ maxStaged
  fresh : ∀ n, t.nextId < n → t.txns[txnId n]? = none
  counted : count ≤ t.nextId

lemma txnId_inj {m n : Nat} : txnId m = txnId n ↔ m = n := by simp [txnId]

lemma total_erase {txns : Map TxnId Txn} (present : txns[id]? = some txn) :
    total txns = txn.bytes + total (txns.erase id) :=
  ((toList_erase_perm present).map _).sum_nat

lemma Bounded.empty {last : Nat} (counted : count ≤ last) : Bounded count ⟨last,∅,0⟩ :=
  ⟨rfl,Nat.zero_le _,Nat.zero_le _,fun _ _ there => by simp at there,fun _ _ => by simp,counted⟩

section

variable (bounded : t.Bounded count)

include bounded

lemma Bounded.replace (present : t.txns[id]? = some txn)
    (small : next.staged ≤ maxStaged) (added : bytes + txn.bytes = t.stagedBytes + next.bytes)
    (cap : bytes ≤ maxStagedBytes) : Bounded count {t with txns := t.txns.insert id next,stagedBytes := bytes} := by
  have replaced : (t.txns.insert id next).erase id = t.txns.erase id := by
    ext1 other
    rw [Entries.getElem?_erase,Entries.getElem?_insert,Entries.getElem?_erase]
    split_ifs <;> rfl
  have before := total_erase present
  have after := total_erase (by simp : (t.txns.insert id next)[id]? = some next)
  have known : id ∈ t.txns := mem_iff_exists.mpr ⟨txn,present⟩
  have own := bounded.bytes
  rw [replaced] at after
  refine ⟨by dsimp only; omega,cap,?_,?_,?_,bounded.counted⟩
  · simpa [size_insert,known] using bounded.txns
  · intro other found there
    rcases of_insert there with ⟨rfl,rfl⟩ | ⟨_,old⟩
    · exact small
    · exact bounded.staged other found old
  · intro n later
    have absent := bounded.fresh n later
    have apart : id ≠ txnId n := fun same => by simp_all
    rwa [Entries.getElem?_insert,if_neg apart]

lemma Bounded.declared (room : ¬ maxTxns ≤ t.txns.size) :
    Bounded count ⟨t.nextId + 1,t.txns.insert (txnId (t.nextId + 1)) {},t.stagedBytes⟩ := by
  have absent := bounded.fresh _ (Nat.lt_succ_self t.nextId)
  have sum := ((toList_insert_perm {} absent).map fun entry => entry.2.bytes).sum_nat
  have size := size_insert_le (t := t.txns) (k := txnId (t.nextId + 1)) (v := {})
  refine ⟨bounded.bytes.trans (by simpa [total,Txn.bytes] using sum.symm),bounded.cap,by dsimp only; omega,?_,?_,
    Nat.le_succ_of_le bounded.counted⟩
  · intro other found there
    rcases of_insert there with ⟨rfl,rfl⟩ | ⟨_,old⟩
    · exact Nat.zero_le _
    · exact bounded.staged other found old
  · intro n later
    have apart : txnId (t.nextId + 1) ≠ txnId n := mt txnId_inj.mp (Nat.ne_of_lt later)
    rw [Entries.getElem?_insert,if_neg apart]
    exact bounded.fresh n (Nat.lt_of_succ_lt later)

lemma Bounded.moves {u : TxnManager} (moves : t.Moves u) : u.Bounded count := by
  cases moves with
  | same => exact bounded
  | declared room => exact bounded.declared room
  | replaced present small added cap =>
    exact bounded.replace present (small (bounded.staged _ _ present)) added (cap bounded.cap)
  | @taken id txn present =>
    have before := total_erase present
    have own := bounded.bytes
    have left : t.stagedBytes - txn.bytes = total (t.txns.erase id) := by omega
    refine ⟨left,(Nat.sub_le ..).trans bounded.cap,size_erase_le.trans bounded.txns,?_,?_,bounded.counted⟩
    · exact fun other found there => bounded.staged other found (of_erase there).2
    · intro n later
      simp [Entries.getElem?_erase,bounded.fresh n later]
  | cleared => exact .empty bounded.counted

lemma Bounded.run (ops : List Op) : (ops.foldl TxnManager.apply t).Bounded count := by
  induction ops generalizing t with
  | nil => exact bounded
  | cons op ops ih => exact ih (bounded.moves (apply_moves t op))

lemma Bounded.declare_id {made : TxnManager} (ok : t.declare = some (id,made)) :
    id = txnId (t.nextId + 1) ∧ made.Bounded (t.nextId + 1) := by
  unfold declare at ok
  split_ifs at ok with full
  cases ok
  exact ⟨rfl,{bounded.declared full with counted := le_rfl}⟩

end

/-- No transaction is given this id again, and one that has it is to be rolled back. -/
structure Flagged (id : TxnId) (t : TxnManager) : Prop where
  fresh : ∀ n, t.nextId < n → txnId n ≠ id
  flag : ∀ txn, t.txns[id]? = some txn → txn.rollbackOnly = true

lemma Bounded.flagged (bounded : t.Bounded count) {op : Op} (refuses : t.Refuses id op) : Flagged id (t.apply op) := by
  obtain ⟨txn,present,same⟩ := refuses.apply
  rw [same]
  refine ⟨fun n later named => ?_,fun other there => by simp at there; simp [← there]⟩
  cases (bounded.fresh n later).symm.trans (named ▸ present)

lemma Flagged.moves {u : TxnManager} (flagged : Flagged id t) (moves : t.Moves u) : Flagged id u := by
  cases moves with
  | same => exact flagged
  | declared =>
    refine ⟨fun n later => flagged.fresh n (Nat.lt_of_succ_lt later),fun found there => ?_⟩
    rcases of_insert there with ⟨same,-⟩ | ⟨_,old⟩
    · exact absurd same (flagged.fresh _ (Nat.lt_succ_self _))
    · exact flagged.flag found old
  | replaced present _ _ _ flag =>
    refine ⟨flagged.fresh,fun found there => ?_⟩
    rcases of_insert there with ⟨rfl,rfl⟩ | ⟨_,old⟩
    · exact flag (flagged.flag _ present)
    · exact flagged.flag found old
  | taken => exact ⟨flagged.fresh,fun found there => flagged.flag found (of_erase there).2⟩
  | cleared => exact ⟨flagged.fresh,fun _ there => by simp at there⟩

lemma Flagged.run (flagged : Flagged id t) (ops : List Op) : Flagged id (ops.foldl TxnManager.apply t) := by
  induction ops generalizing t with
  | nil => exact flagged
  | cons op ops ih => exact ih (flagged.moves (apply_moves t op))

end TxnManager

namespace BrokerConnection

variable {c : BrokerConnection} {config : BrokerConfig} {channel : UInt16} {handle deliveryId : UInt32} {task : Nat}
  {commit : Commit} {result : BrokerConnection × List BrokerEffect}

lemma onSession_spawns {run : Session → Except Fault (Session × List Effect)}
    (ok : c.onSession config channel run = .ok result) : .spawn task commit ∉ result.2 := by
  unfold onSession at ok
  split at ok
  · cases ok
    exact not_mem_nil
  split at ok <;> cases ok
  simp [absorb]

lemma answerControl_spawns {state : DeliveryState}
    (ok : c.answerControl config channel handle deliveryId state = .ok result) : .spawn task commit ∉ result.2 := by
  obtain ⟨first,more,sent,granted,rfl⟩ := andThen_ok ok
  exact fun listed => (mem_append.mp listed).elim (onSession_spawns sent) (onSession_spawns granted)

lemma handleTxnControl_spawns {d : IncomingDelivery} (ok : c.handleTxnControl config channel handle d = .ok result)
    (spawned : .spawn task commit ∈ result.2) : ∃ id fail txn, config.codec.decodeControl d.message = some (.discharge id fail) ∧
      c.txns.txns[id]? = some txn ∧ commit = dischargeTask txn fail := by
  unfold handleTxnControl at ok
  split at ok
  · split at ok
    · cases ok
      cases spawned
    split_ifs at ok
    · exact absurd spawned (answerControl_spawns ok)
    split at ok
    · obtain ⟨first,more,made,answered,rfl⟩ := andThen_ok ok
      cases made
      simp [answerControl_spawns answered] at spawned
    · exact absurd spawned (answerControl_spawns ok)
  · rename_i id fail decoded
    split at ok
    · exact absurd spawned (answerControl_spawns ok)
    rename_i txn txns taken
    obtain ⟨_,present,same⟩ := Option.map_eq_some_iff.mp taken
    cases same
    obtain ⟨first,more,made,granted,rfl⟩ := andThen_ok ok
    cases made
    simp only [cons_append,nil_append,mem_cons,reduceCtorEq,false_or,BrokerEffect.spawn.injEq] at spawned
    rcases spawned with ⟨-,rfl⟩ | later
    · exact ⟨id,fail,txn,decoded,present,rfl⟩
    · exact absurd later (onSession_spawns granted)
  · exact absurd spawned (answerControl_spawns ok)

lemma dischargeTask_rollingBack {txn : Txn} (flag : txn.rollbackOnly = true) (fail : Bool) :
    ∃ outcome, dischargeTask txn fail = .rollingBack txn outcome := by
  cases fail with
  | true => exact ⟨.complete,rfl⟩
  | false => exact ⟨.rolledBack,by simp [dischargeTask,flag]⟩

end BrokerConnection

namespace TxnManager

/-- The discharge handler of a connection with this table rolls back what it takes for a discharge of this id. -/
def RollsBack (t : TxnManager) (id : TxnId) : Prop :=
  ∀ (c : BrokerConnection) config channel handle d result task commit fail, c.txns = t →
    config.codec.decodeControl d.message = some (.discharge id fail) →
    c.handleTxnControl config channel handle d = .ok result → .spawn task commit ∈ result.2 →
    ∃ txn outcome, t.txns[id]? = some txn ∧ commit = .rollingBack txn outcome

lemma rollsBack_of_flag {t : TxnManager} {id : TxnId} (flag : ∀ txn, t.txns[id]? = some txn → txn.rollbackOnly = true) : t.RollsBack id := by
  rintro c config channel handle d result task commit fail rfl decoded ok spawned
  obtain ⟨_,_,txn,same,present,rfl⟩ := BrokerConnection.handleTxnControl_spawns ok spawned
  cases decoded.symm.trans same
  obtain ⟨outcome,rolls⟩ := BrokerConnection.dischargeTask_rollingBack (flag txn present) fail
  exact ⟨txn,outcome,present,rolls⟩

/-- After any operations what is staged is counted and within its caps, an id is not given out again, a refusal leaves
its transaction rollback-only and hands the settlement back, and a transaction that is rollback-only, or of which a part
was refused at any time before, is rolled back when it is discharged. -/
theorem transactions_bounded (ops : List Op) :
    let t := ops.foldl apply {}
    t.Bounded 0 ∧
    (∀ id made (later : List Op) other last, t.declare = some (id,made) →
      (later.foldl apply made).declare = some (other,last) → id ≠ other) ∧
    (∀ id publish, id ∈ t.txns → (t.stagePublish id publish).2 = .staged ∨ t.Refuses id (.stagePublish id publish)) ∧
    (∀ id settle, id ∈ t.txns → (t.stageSettle id settle).2 = .staged ∨ t.Refuses id (.stageSettle id settle)) ∧
    (∀ id op, t.Refuses id op → ((t.apply op).txns[id]?).any Txn.rollbackOnly = true) ∧
    (∀ id txn, t.txns[id]? = some txn → txn.rollbackOnly = true → t.RollsBack id) ∧
    ∀ id op (later : List Op), t.Refuses id op →
      let after := later.foldl apply (t.apply op)
      (∀ txn, after.txns[id]? = some txn → txn.rollbackOnly = true) ∧ after.RollsBack id := by
  intro t
  have bounded : t.Bounded 0 := (Bounded.empty le_rfl).run ops
  refine ⟨bounded,?_,fun id publish known => ?_,fun id settle known => ?_,fun id op refuses => ?_,?_,?_⟩
  · intro id made later other last first again
    obtain ⟨rfl,counted⟩ := bounded.declare_id first
    have after := counted.run later
    rw [(after.declare_id again).1]
    exact mt txnId_inj.mp (Nat.ne_of_lt (Nat.lt_succ_of_le after.counted))
  · obtain ⟨txn,present⟩ := mem_iff_exists.mp known
    simp only [Refuses,stagePublish,present]
    split_ifs <;> simp
  · obtain ⟨txn,present⟩ := mem_iff_exists.mp known
    simp only [Refuses,stageSettle,present]
    split_ifs <;> simp
  · obtain ⟨txn,_,same⟩ := refuses.apply
    simp [same]
  · intro id txn present flag
    exact rollsBack_of_flag fun other there => by cases present.symm.trans there; exact flag
  · intro id op later refuses
    have flagged := (bounded.flagged refuses).run later
    exact ⟨flagged.flag,rollsBack_of_flag flagged.flag⟩

@[irreducible] def hugeBody : Bytes := replicate (maxStagedBytes + 1) 0

def oversized : Op := .stagePublish (txnId 1) ⟨⟨.transient,"q"⟩,hugeBody⟩

theorem transactions_bounded_twice : txnId 1 ≠ txnId 2 ∧ ([Op.declare].foldl apply {}).Refuses (txnId 1) oversized ∧
    ([.declare].foldl apply (([Op.declare].foldl apply {}).apply oversized)).RollsBack (txnId 1) := by
  have long : hugeBody.length = maxStagedBytes + 1 := by rw [hugeBody,length_replicate]
  have refuses : ([Op.declare].foldl apply {}).Refuses (txnId 1) oversized := by
    refine ⟨rfl,?_⟩
    simp +arith [TxnManager.apply,declare,stagePublish,maxTxns,long]
  refine ⟨(transactions_bounded []).2.1 _ _ [] _ _ rfl rfl,refuses,?_⟩
  exact ((transactions_bounded [.declare]).2.2.2.2.2.2 (txnId 1) oversized [.declare] refuses).2

end TxnManager

end Ramqp
