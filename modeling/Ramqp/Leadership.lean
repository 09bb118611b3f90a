import Ramqp.Placement
import Ramqp.Replicas
import Ramqp.Library.Transition

/-! Every message of the applied state is in one place of its leader, and the delivery limit is kept. -/
namespace Ramqp

open Std List Option Function Transition Proposal ExtTreeSet Leader QuorumQueue QueueState Entries ExtTreeMap

def Proposal.removal? : Proposal → Option Nat
  | .remove msgId _ => some msgId
  | _ => none

def Proposal.counted? : Proposal → Option Nat
  | .countFailure msgId => some msgId
  | _ => none

def arrival? : Proposal × QueueResponse → Option Nat
  | (.publish _ _ _,.enqueued msgId) => some msgId
  | _ => none

section Counting

structure Counted (p : EffectivePolicy) (before : UInt32) (count : Option UInt32) (replicated : UInt32) (pending : Prop)
    (failed : Nat) : Prop where
  unseen : count = none → failed = 0 ∧ ¬ pending ∧ replicated = before
  seen : ∀ n, count = some n → n = before + UInt32.ofNat failed
  within : before.toNat + 1 < UInt32.size → ∀ limit, p.maxAttempts = some limit →
    failed = 0 ∨ before.toNat + failed < limit.toNat

/-- The failures of a message, with those it had before, are up to the delivery limit. -/
def ReachesLimit (p : EffectivePolicy) (before : UInt32) (failures : Nat) : Prop :=
  ∃ limit, p.maxAttempts = some limit ∧ limit.toNat ≤ before.toNat + failures

def failureCount (count : Option UInt32) (replicated : UInt32) : UInt32 := count.getD replicated + 1

namespace Counted

variable {p : EffectivePolicy} {before replicated : UInt32} {count : Option UInt32} {pending : Prop} {failed : Nat}

variable {pending' : Prop}

section

variable (counted : Counted p before count replicated pending failed)

include counted

lemma next_eq :
    failureCount count replicated = before + UInt32.ofNat (failed + 1) := by
  unfold failureCount
  cases count with
  | none =>
    obtain ⟨none,-,same⟩ := counted.unseen rfl
    rw [none,getD_none,same]
    rfl
  | some n =>
    rw [getD_some,counted.seen n rfl,UInt32.ofNat_add,UInt32.add_assoc]
    rfl

lemma next_toNat
    (room : before.toNat + 1 < UInt32.size) {limit : UInt32} (limited : p.maxAttempts = some limit) :
    (failureCount count replicated).toNat = before.toNat + failed + 1 := by
  have small : before.toNat + (failed + 1) < UInt32.size := by
    have bound := limit.toNat_lt
    rcases counted.within room limit limited with none|less
    · omega
    · change _ < 2^32
      omega
  have fits : failed + 1 < UInt32.size := by omega
  rw [counted.next_eq,UInt32.toNat_add,UInt32.toNat_ofNat_of_lt' fits,Nat.mod_eq_of_lt small]
  rfl

lemma exhausted_iff (room : before.toNat + 1 < UInt32.size) :
    p.attemptsExhausted (failureCount count replicated) = true ↔ ReachesLimit p before (failed + 1) := by
  unfold EffectivePolicy.attemptsExhausted
  rw [Option.any_eq_true]
  refine exists_congr fun limit => and_congr_right fun limited => ?_
  rw [decide_eq_true_iff,UInt32.le_iff_toNat_le,counted.next_toNat room limited,Nat.add_assoc]

lemma imp {replicated' : UInt32}
    (same : replicated' = replicated) (still : pending' → pending) :
    Counted p before count replicated' pending' failed := by
  refine ⟨fun none => ?_,counted.seen,counted.within⟩
  obtain ⟨zero,settled,start⟩ := counted.unseen none
  exact ⟨zero,fun waits => settled (still waits),same.trans start⟩

lemma fail
    (spared : p.attemptsExhausted (failureCount count replicated) = false) :
    Counted p before (some (failureCount count replicated)) replicated pending' (failed + 1) := by
  refine ⟨nofun,?_,fun room limit limited => Or.inr ?_⟩
  · rintro n ⟨⟩
    exact counted.next_eq
  have below : ¬ ReachesLimit p before (failed + 1) := by
    rw [← counted.exhausted_iff room,spared]
    exact Bool.false_ne_true
  exact Nat.lt_of_not_le fun reached => below ⟨limit,limited,reached⟩

end

end Counted

def Live (place : Nat → Site) (nextMsgId id : Nat) : Prop := place id ≠ .removing ∧ (place id = .absent → nextMsgId < id)

def QueueState.failuresOf (s : QueueState) (id : Nat) : UInt32 := (s.messages[id]?.map ReplicatedMessage.failures).getD 0

variable {place : Nat → Site} {nextMsgId id : Nat} {site dest : Site} {C C' : Nat → Prop}

lemma counts_update (counts : ∀ x, Live place nextMsgId x → C x) (at_ : place id = site) (placed : site ≠ .removing)
    (present : site ≠ .absent) (others : ∀ x, x ≠ id → C x → C' x) (here : dest ≠ .removing → C id → C' id) :
    ∀ x, Live (update place id dest) nextMsgId x → C' x := by
  intro x live
  by_cases same : x = id
  · subst same
    rw [Live,update_self] at live
    exact here live.1 (counts x ⟨at_ ▸ placed,fun absent => absurd (at_ ▸ absent) present⟩)
  · rw [Live,update_of_ne same] at live
    exact others x same (counts x live)

end Counting

structure Leading (p : EffectivePolicy) (before : Nat → UInt32) (state : QueueState)
    (answered : List (Proposal × QueueResponse)) (failed : Nat → Nat) (q : QuorumQueue) (proposed : List Proposal)
    (place : Nat → Site) : Prop where
  located : Located q state (proposed.filterMap Proposal.removal?) (answered.filterMap arrival?) place
  counted : ∀ id : Nat, Live place state.nextMsgId id → Counted p (before id) q.failures[id]? (state.failuresOf id)
    (id ∈ proposed.filterMap Proposal.counted?) (failed id)

def Goes (p : EffectivePolicy) (before : Nat → UInt32) (state : QueueState) (answered : List (Proposal × QueueResponse))
    (proposed : List Proposal) (q next : QuorumQueue) (failed : Nat → Nat) : Prop :=
  ∃ new place, next.commits = q.commits ++ new ∧ Leading p before state answered failed next (proposed ++ new) place

section Acting

variable {p : EffectivePolicy} {before : Nat → UInt32} {state : QueueState} {answered : List (Proposal × QueueResponse)}
  {failed : Nat → Nat} {q : QuorumQueue} {proposed : List Proposal} {place : Nat → Site} {id : Nat}

lemma filterMap_snoc {α β : Type} (f : α → Option β) (items : List α) {item : α} (none : f item = none) :
    (items ++ [item]).filterMap f = items.filterMap f := by
  rw [filterMap_append,filterMap_cons_none none,filterMap_nil,append_nil]

lemma Leading.silently {next : QuorumQueue} (after : Leading p before state answered failed next proposed place)
    (commits : next.commits = q.commits) : Goes p before state answered proposed q next failed := by
  refine ⟨[],place,?_,?_⟩
  · rw [commits,append_nil]
  · rw [append_nil]
    exact after

namespace Leading

variable (leading : Leading p before state answered failed q proposed place)

variable {failed' : Nat → Nat}

variable {sub : SubId}

include leading

lemma same {next : QuorumQueue} (ready : next.ready = q.ready) (inflight : next.inflight = q.inflight)
    (ids : ∀ sub ∈ q.ring.ids, sub ∈ next.ring.ids) (failures : next.failures = q.failures) :
    Leading p before state answered failed next proposed place := by
  refine ⟨leading.located.same ready inflight ids,?_⟩
  rw [failures]
  exact leading.counted

lemma propose (proposal : Proposal) : Leading p before state answered failed (q.propose proposal) proposed place :=
  leading.same rfl rfl (fun _ => id) rfl

lemma stays {next : QuorumQueue} (ready : next.ready = q.ready) (inflight : next.inflight = q.inflight)
    (ids : ∀ sub ∈ q.ring.ids, sub ∈ next.ring.ids) (failures : next.failures = q.failures)
    (commits : next.commits = q.commits) : Goes p before state answered proposed q next failed :=
  (leading.same ready inflight ids failures).silently commits

lemma publishes (ack : Option PublishAck) (body : Bytes) (enqueuedMs : Nat) :
    Leading p before state answered failed q (proposed ++ [.publish ack body enqueuedMs]) place := by
  obtain ⟨located,counted⟩ := leading
  constructor
  · rw [filterMap_snoc _ _ rfl]
    exact located
  · rw [filterMap_snoc _ _ rfl]
    exact counted

lemma evict (at_ : id ∈ q.ready) :
    Leading p before state answered failed {q with ready := q.ready.erase id} (proposed ++ [.remove id false])
      (update place id .removing) := by
  have at_ : place id = .ready := (leading.located.ready id).mp at_
  constructor
  · rw [filterMap_append]
    exact leading.located.evict at_
  rw [filterMap_snoc counted? _ rfl]
  exact counts_update leading.counted at_ nofun nofun (fun x _ counted => counted)
    (fun moved => absurd rfl moved)

section

variable (owned : q.inflight[id]? = some sub)

include owned

lemma settle (again : Bool) (others : ∀ x, x ≠ id → failed' x = failed x) :
    Leading p before state answered failed' {q with inflight := q.inflight.erase id,failures := q.failures.erase id}
      (proposed ++ [.remove id again]) (update place id .removing) := by
  have at_ : place id = .held sub := (leading.located.held id sub).mp owned
  constructor
  · rw [filterMap_append]
    exact (leading.located.settle at_).same rfl rfl fun _ x => x
  rw [filterMap_snoc counted? _ rfl]
  refine counts_update leading.counted at_ nofun nofun (fun x apart counted => ?_)
    (fun moved => absurd rfl moved)
  rw [others x apart,Entries.getElem?_erase,if_neg (Ne.symm apart)]
  exact counted

lemma requeue :
    Leading p before state answered failed {q with inflight := q.inflight.erase id,ready := q.ready.insert id} proposed
      (update place id .ready) := by
  have at_ : place id = .held sub := (leading.located.held id sub).mp owned
  refine ⟨leading.located.requeue at_,?_⟩
  exact counts_update leading.counted at_ nofun nofun (fun _ _ counted => counted)
    (fun _ x => x)

lemma countedAt :
    Counted p (before id) q.failures[id]? (state.failuresOf id) (id ∈ proposed.filterMap counted?) (failed id) := by
  have at_ : place id = .held sub := (leading.located.held id sub).mp owned
  refine leading.counted id ⟨?_,fun absent => ?_⟩
  · rw [at_]
    nofun
  · rw [at_] at absent
    cases absent

lemma fail (spared : p.attemptsExhausted (failureCount q.failures[id]? (state.failuresOf id)) = false)
    (others : ∀ x, x ≠ id → failed' x = failed x) (here : failed' id = failed id + 1) :
    Leading p before state answered failed'
      {q with
        inflight := q.inflight.erase id
        failures := q.failures.insert id (failureCount q.failures[id]? (state.failuresOf id))
        ready := q.ready.insert id} (proposed ++ [.countFailure id]) (update place id .ready) := by
  have at_ : place id = .held sub := (leading.located.held id sub).mp owned
  constructor
  · rw [filterMap_snoc removal? _ rfl]
    exact (leading.located.requeue at_).same rfl rfl fun _ x => x
  refine counts_update leading.counted at_ nofun nofun (fun x apart counted => ?_)
    (fun _ counted => ?_)
  · rw [others x apart,Entries.getElem?_insert,if_neg (Ne.symm apart)]
    simpa [counted?,apart] using counted
  · rw [here,Entries.getElem?_insert,if_pos rfl]
    exact counted.fail spared

end

lemma requeueHeld (sub : SubId) {ring : Ring} (ids : ∀ other ∈ q.ring.ids, other ≠ sub → other ∈ ring.ids) :
    Leading p before state answered failed ({q with ring}.requeueHeld sub) proposed (fun id => (place id).released sub) := by
  refine ⟨leading.located.requeueHeld sub ids,fun x live => leading.counted x ⟨fun removing => ?_,fun absent => ?_⟩⟩
  · exact live.1 ((Site.released_other .removing nofun nofun).mpr removing)
  · exact live.2 ((Site.released_other .absent nofun nofun).mpr absent)

lemma deliver (at_ : id ∈ q.ready) (known : sub ∈ q.ring.ids) :
    Leading p before state answered failed {q with ready := q.ready.erase id,inflight := q.inflight.insert id sub} proposed
      (update place id (.held sub)) := by
  have at_ : place id = .ready := (leading.located.ready id).mp at_
  refine ⟨leading.located.deliver at_ known,?_⟩
  exact counts_update leading.counted at_ nofun nofun (fun _ _ counted => counted)
    (fun _ x => x)

end Leading

namespace QuorumQueue

variable (leading : Leading p before state answered failed q proposed place)

variable {view : QueueView}

include leading

lemma roomFor_goes (view : QueueView) (fromReserved : Bool) :
    Goes p before state answered proposed q (q.roomFor p view fromReserved).1 failed := by
  unfold roomFor
  split
  · split
    next oldId head =>
      have listed : q.ready.toList.head? = some oldId := by
        split at head
        · exact head
        · cases head
      have at_ : oldId ∈ q.ready := mem_toList.mp (mem_of_head? listed)
      exact ⟨[.remove oldId false],_,rfl,(leading.evict at_).propose _⟩
    · exact leading.stays rfl rfl (fun _ => id) rfl rfl
  · exact leading.stays rfl rfl (fun _ => id) rfl rfl

lemma publish_goes (view : QueueView) (now : Nat) (body : Bytes) (ack : Option PublishAck) (fromReserved : Bool) :
    Goes p before state answered proposed q (q.publish p view now body ack fromReserved).1 failed := by
  have slot : Leading p before state answered failed (q.useSlot fromReserved) proposed place := by
    unfold useSlot
    split
    · exact leading.same rfl rfl (fun _ => id) rfl
    · exact leading
  have commits : (q.useSlot fromReserved).commits = q.commits := by
    unfold useSlot
    split <;> rfl
  obtain ⟨new,placed,proposes,after⟩ := roomFor_goes slot view fromReserved
  rw [commits] at proposes
  unfold publish
  dsimp only
  split
  · exact ⟨new,placed,proposes,after⟩
  split
  · exact ⟨new,placed,proposes,after⟩
  refine ⟨new ++ [.publish ack body now],placed,?_,?_⟩
  · change ((q.useSlot fromReserved).roomFor p view fromReserved).1.commits ++ [.publish ack body now] = _
    rw [proposes,append_assoc]
  · rw [← append_assoc]
    exact (after.publishes ack body now).same rfl rfl (fun _ => id) rfl

lemma settle_goes (metas : ∀ x, ((view.metaOf x).map Prod.snd).getD 0 = state.failuresOf x) {sub : SubId}
    (owned : q.inflight[id]? = some sub) (outcome : SettleOutcome) {failed' : Nat → Nat}
    (others : ∀ x, x ≠ id → failed' x = failed x)
    (here : failed' id = if outcome = .requeueFailed then failed id + 1 else failed id) :
    Goes p before state answered proposed q ({q with inflight := q.inflight.erase id}.settle p view id outcome).1 failed' := by
  have unchanged : outcome ≠ .requeueFailed → failed' = failed := by
    intro other
    funext x
    by_cases same : x = id
    · subst same
      rw [here,if_neg other]
    · exact others x same
  cases outcome with
  | ack | drop => exact ⟨[.remove id true],_,rfl,(leading.settle owned true others).propose _⟩
  | requeue =>
    rw [unchanged nofun]
    exact (leading.requeue owned).silently rfl
  | requeueFailed =>
    unfold settle
    rw [metas]
    change Goes p before state answered proposed q (if p.attemptsExhausted
      (failureCount q.failures[id]? (state.failuresOf id)) then _ else _ : QuorumQueue × List QueueEffect).1 failed'
    split
    · exact ⟨[.remove id false],_,rfl,(leading.settle owned false others).propose _⟩
    next spared =>
      exact ⟨[.countFailure id],_,rfl,(leading.fail owned (Bool.eq_false_iff.mpr spared) others here).propose _⟩

lemma handleMsg_goes (metas : ∀ x, ((view.metaOf x).map Prod.snd).getD 0 = state.failuresOf x) (now : Nat)
    (msg : QueueMsg) : Goes p before state answered proposed q (q.handleMsg p view now msg).1
      fun id => if fails q id msg then failed id + 1 else failed id := by
  cases msg with
  | publish body ack => exact publish_goes leading view now body ack false
  | publishReserved body ack => exact publish_goes leading view now body ack true
  | reserve =>
    unfold handleMsg
    dsimp only
    split
    · exact leading.stays rfl rfl (fun _ => id) rfl rfl
    · exact leading.stays rfl rfl (fun _ => id) rfl rfl
  | unreserve | stats => exact leading.stays rfl rfl (fun _ => id) rfl rfl
  | subscribe conn channel handle bindingGen =>
    refine leading.stays rfl rfl (fun sub member => ?_) rfl rfl
    change sub ∈ (q.ring.subscribe conn channel handle bindingGen).ids
    rw [Ring.subscribe_ids]
    exact mem_append_left _ member
  | demand sub credit drain =>
    refine leading.stays rfl rfl (fun other member => ?_) rfl rfl
    change other ∈ (q.ring.grant sub credit drain).ids
    rw [Ring.grant_ids]
    exact member
  | unsubscribe sub =>
    exact (leading.requeueHeld sub fun other member apart => Ring.mem_remove_ids.mpr ⟨member,apart⟩).silently rfl
  | settle sub id outcome =>
    unfold handleMsg
    dsimp only
    split
    next owned =>
      refine settle_goes leading metas owned outcome (fun x apart => if_neg ?_) ?_
      · cases outcome <;> simp [fails,Ne.symm apart]
      · cases outcome <;> simp [fails,owned]
    rename_i other
    have quiet : ∀ x, fails q x (.settle sub id outcome) = false := by
      intro x
      cases outcome with
      | requeueFailed =>
        by_cases same : id = x
        · subst same
          simp [fails,other]
        · simp [fails,same]
      | _ => rfl
    simp only [quiet,Bool.false_eq_true,if_false]
    exact leading.stays rfl rfl (fun _ x => x) rfl rfl

end QuorumQueue

end Acting

section Applying

namespace QueueState

variable {s t : QueueState} {fault : AppendFault} {response : QueueResponse} {id : Nat}

lemma storeBody_kept {body : Bytes} {stored : StoredBody} (ok : s.storeBody fault body = some (t,stored)) :
    t.messages = s.messages ∧ t.nextMsgId = s.nextMsgId := by
  unfold storeBody at ok
  split at ok
  · cases ok
    exact ⟨rfl,rfl⟩
  split at ok
  · cases ok
    exact ⟨rfl,rfl⟩
  split at ok
  · cases ok
  · cases ok
    exact ⟨rfl,rfl⟩
  · cases ok
    exact ⟨rfl,rfl⟩

lemma apply_enqueue {body : Bytes} {enqueuedMs : Nat} (ok : s.apply fault (.enqueue body enqueuedMs) = some (t,response)) :
    response = .enqueued (s.nextMsgId + 1) ∧ t.nextMsgId = s.nextMsgId + 1 ∧
      ∃ stored, t.messages = s.messages.insert (s.nextMsgId + 1) ⟨stored,0,enqueuedMs⟩ := by
  unfold apply at ok
  dsimp only at ok
  split at ok
  · cases ok
  rename_i stored kept
  obtain ⟨messages,counter⟩ := storeBody_kept kept
  cases ok
  refine ⟨rfl,counter,stored,?_⟩
  rw [messages]

lemma apply_remove (ok : s.apply fault (.settle id false) = some (t,response)) :
    t.messages = s.messages.erase id ∧ t.nextMsgId = s.nextMsgId := by
  unfold apply at ok
  dsimp only at ok
  split at ok
  next removed there =>
    cases ok
    cases removed.body with
    | resident | spilled => exact ⟨rfl,rfl⟩
  rename_i absent
  cases ok
  refine ⟨(ExtTreeMap.ext_getElem? fun other => ?_).symm,rfl⟩
  rw [Entries.getElem?_erase]
  split
  next here =>
    rw [← here,absent]
  · rfl

lemma apply_count (ok : s.apply fault (.settle id true) = some (t,response)) :
    (∀ x : Nat, (t.messages[x]?).isSome = (s.messages[x]?).isSome) ∧
      (∀ x : Nat, x ≠ id → t.messages[x]? = s.messages[x]?) ∧ t.nextMsgId = s.nextMsgId := by
  unfold apply at ok
  dsimp only at ok
  split at ok
  next there =>
    cases ok
    refine ⟨fun x => ?_,fun x apart => ?_,rfl⟩
    · rw [Entries.getElem?_insert]
      split
      next here =>
        rw [← here,there]
        rfl
      · rfl
    · rw [Entries.getElem?_insert,if_neg (Ne.symm apart)]
  · cases ok
    exact ⟨fun _ => rfl,fun _ _ => rfl,rfl⟩

def Numbered (s : QueueState) : Prop := ∀ id : Nat, (s.messages[id]?).isSome → id ≤ s.nextMsgId

lemma apply_numbered {command : QueueCommand} (numbered : s.Numbered) (ok : s.apply fault command = some (t,response)) :
    t.Numbered := by
  intro id present
  cases command with
  | enqueue =>
    obtain ⟨-,counter,_,messages⟩ := apply_enqueue ok
    rw [messages,Entries.getElem?_insert] at present
    rw [counter]
    split at present
    next here => exact here.ge
    · exact (numbered id present).trans (Nat.le_succ _)
  | settle msgId requeue =>
    cases requeue with
    | true =>
      obtain ⟨same,-,counter⟩ := apply_count ok
      rw [counter]
      exact numbered id (same id ▸ present)
    | false =>
      obtain ⟨messages,counter⟩ := apply_remove ok
      rw [messages,Entries.getElem?_erase] at present
      rw [counter]
      split at present
      · cases present
      · exact numbered id present

/-- The state in which a leader starts: whatever log was applied to an empty queue, its message ids were given out. -/
lemma applyAll_numbered {faults : Nat → AppendFault} {log : List QueueCommand} {responses : List QueueResponse}
    (numbered : s.Numbered) (ok : applyAll faults position s log = some (t,responses)) : t.Numbered := by
  induction log generalizing s position responses with
  | nil =>
    cases ok
    exact numbered
  | cons command rest ih =>
    rw [applyAll] at ok
    split at ok
    · cases ok
    next applied =>
      obtain ⟨⟨_,_⟩,later,same⟩ := Option.map_eq_some_iff.mp ok
      cases same
      exact ih (apply_numbered numbered applied) later

lemma start_numbered (paging : Option (Nat × Nat)) : (start paging).Numbered := by
  cases paging <;> exact fun _ present => nomatch present

lemma failuresOf_congr {x : Nat} (same : t.messages[x]? = s.messages[x]?) : t.failuresOf x = s.failuresOf x := by
  unfold failuresOf
  rw [same]

lemma view_failures (s : QueueState) (residentBytes x : Nat) :
    ((({s.view with residentBytes} : QueueView).metaOf x).map Prod.snd).getD 0 = s.failuresOf x := by
  unfold failuresOf view
  rw [Option.map_map]
  rfl

end QueueState

end Applying

namespace Leading

variable {p : EffectivePolicy} {before : Nat → UInt32} {state next : QueueState} {answered : List (Proposal × QueueResponse)}
  {failed : Nat → Nat} {q : QuorumQueue} {proposed rest : List Proposal} {place : Nat → Site} {response : QueueResponse}
  {fault : AppendFault}

lemma apply (leading : Leading p before state answered failed q proposed place) {proposal : Proposal}
    (perm : proposed.Perm (proposal::rest)) (ok : state.apply fault proposal.command = some (next,response)) :
    ∃ place, Leading p before next (answered ++ [(proposal,response)]) failed q rest place := by
  have removes := perm.filterMap removal?
  have fewer : ∀ id, id ∈ rest.filterMap counted? → id ∈ proposed.filterMap counted? := by
    intro id member
    refine (perm.filterMap counted?).mem_iff.mpr ?_
    rw [filterMap_cons]
    split
    · exact member
    · exact mem_cons_of_mem _ member
  cases proposal with
  | publish =>
    obtain ⟨rfl,counter,_,messages⟩ := apply_enqueue ok
    refine ⟨update place (state.nextMsgId + 1) .arriving,?_,?_⟩
    · rw [filterMap_append]
      exact (leading.located.perm removes (List.Perm.refl _)).enqueue messages counter
    intro x live
    have absent : place (state.nextMsgId + 1) = .absent := by
      by_contra present
      exact absurd (leading.located.numbered _ present) (Nat.not_succ_le_self _)
    have lived : Live place state.nextMsgId x := by
      by_cases here : x = state.nextMsgId + 1
      · subst here
        exact ⟨by rw [absent]; nofun,fun _ => Nat.lt_succ_self _⟩
      · rw [Live,update_of_ne here,counter] at live
        exact ⟨live.1,fun gone => Nat.lt_of_succ_lt (live.2 gone)⟩
    refine (leading.counted x lived).imp ?_ (fewer x)
    by_cases here : x = state.nextMsgId + 1
    · subst here
      have none : state.messages[state.nextMsgId + 1]? = none := by
        rw [← not_isSome_iff_eq_none,leading.located.applied,not_not]
        exact absent
      simp only [failuresOf,messages,none,Entries.getElem?_insert,if_true]
      rfl
    · refine failuresOf_congr ?_
      rw [messages,Entries.getElem?_insert,if_neg (Ne.symm here)]
  | remove id =>
    obtain ⟨messages,counter⟩ := apply_remove ok
    refine ⟨update place id .absent,?_,?_⟩
    · rw [filterMap_snoc arrival? _ rfl]
      exact leading.located.remove removes messages counter
    intro x live
    have at_ : place id = .removing := by
      refine (leading.located.removing id).mp (removes.mem_iff.mpr ?_)
      exact mem_cons_self
    have apart : x ≠ id := by
      rintro rfl
      rw [Live,update_self,counter] at live
      have numbered := leading.located.numbered x (by rw [at_]; nofun)
      exact absurd (live.2 rfl) (Nat.not_lt.mpr numbered)
    rw [Live,update_of_ne apart,counter] at live
    refine (leading.counted x live).imp (failuresOf_congr ?_) (fewer x)
    rw [messages,Entries.getElem?_erase,if_neg (Ne.symm apart)]
  | countFailure id =>
    obtain ⟨same,others,counter⟩ := apply_count ok
    refine ⟨place,?_,?_⟩
    · rw [filterMap_snoc arrival? _ rfl]
      exact (leading.located.perm removes (List.Perm.refl _)).restate same counter
    intro x live
    rw [counter] at live
    have counted := leading.counted x live
    by_cases here : x = id
    · subst here
      have waits : x ∈ proposed.filterMap counted? := (perm.filterMap counted?).mem_iff.mpr mem_cons_self
      exact ⟨fun none => absurd waits (counted.unseen none).2.1,counted.seen,counted.within⟩
    · exact counted.imp (failuresOf_congr (others x here)) (fewer x)

lemma complete (leading : Leading p before state answered failed q proposed place)
    {others : List (Proposal × QueueResponse)} {done : Proposal} (perm : answered.Perm ((done,response)::others)) :
    ∃ place, Leading p before state others failed (q.committed done (done.result response)).1 proposed place := by
  have arrives := perm.filterMap arrival?
  have unmoved {next : QuorumQueue} (none : arrival? (done,response) = none) (ready : next.ready = q.ready)
      (inflight : next.inflight = q.inflight) (ring : next.ring = q.ring) (failures : next.failures = q.failures) :
      ∃ place, Leading p before state others failed next proposed place := by
    rw [filterMap_cons_none none] at arrives
    have kept : Leading p before state others failed q proposed place :=
      ⟨leading.located.perm (List.Perm.refl _) arrives,leading.counted⟩
    exact ⟨place,kept.same ready inflight (fun _ member => by rw [ring]; exact member) failures⟩
  cases done with
  | publish =>
    cases response with
    | enqueued id =>
      have arrives : (answered.filterMap arrival?).Perm (id::others.filterMap arrival?) := arrives
      have at_ : place id = .arriving := (leading.located.arriving id).mp (arrives.mem_iff.mpr mem_cons_self)
      refine ⟨update place id .ready,(leading.located.arrive arrives).same rfl rfl fun _ x => x,?_⟩
      exact counts_update leading.counted at_ nofun nofun (fun _ _ counted => counted)
        (fun _ x => x)
    | settled | notFound | void => exact unmoved rfl rfl rfl rfl rfl
  | remove | countFailure => exact unmoved rfl rfl rfl rfl rfl

end Leading

namespace Leader

variable {p : EffectivePolicy} {before : Nat → UInt32} {s t : Leader}

def Sound (p : EffectivePolicy) (before : Nat → UInt32) (s : Leader) : Prop :=
  ∃ place, Leading p before s.applied s.answered s.failed s.queue s.proposed place

lemma moved_sound {next : QuorumQueue} {failed : Nat → Nat} {phase : LeaderPhase}
    (goes : Goes p before s.applied s.answered s.proposed s.queue next failed) :
    Sound p before {s.moved next with phase,failed} := by
  obtain ⟨_,place,proposes,leading⟩ := goes
  refine ⟨place,?_⟩
  change Leading p before s.applied s.answered failed next (s.proposed ++ next.commits.drop s.queue.commits.length) place
  rw [proposes,drop_left]
  exact leading

section

variable (sound : s.Sound p before)

include sound

lemma expireTurn_sound (now : Nat) : (s.expireTurn p now).Sound p before := by
  obtain ⟨place,leading⟩ := sound
  unfold expireTurn
  split
  · exact ⟨place,leading⟩
  rename_i head listed
  split
  next expired =>
    have first : s.queue.ready.toList.head? = some head := by
      split at listed
      · exact listed
      · cases listed
    have at_ : head ∈ s.queue.ready := mem_toList.mp (mem_of_head? first)
    unfold expireHead
    rw [if_pos expired]
    exact moved_sound ⟨[.remove head false],_,rfl,(leading.evict at_).propose _⟩
  · exact ⟨place,leading⟩

lemma deliverReady_sound {live : Bool} (reads : s.Reads (.deliver live) = true) :
    ∃ place, Leading p before s.applied s.answered s.failed
      (s.queue.deliverReady (fun _ _ => live) (fun _ => s.applied.view) 1).1 s.proposed place := by
  obtain ⟨place,leading⟩ := sound
  unfold deliverReady
  split
  · refine ⟨place,leading.same rfl rfl (fun sub member => ?_) rfl⟩
    rw [Ring.completeDrains_ids]
    exact member
  rename_i id rest listed
  split
  · exact ⟨place,leading⟩
  rename_i sub ring taken
  obtain ⟨ids,-,known⟩ := Ring.take_ids taken
  have at_ : id ∈ s.queue.ready := mem_toList.mp (listed ▸ mem_cons_self)
  split
  · split
    · exact ⟨_,(leading.deliver at_ known).same rfl rfl (fun _ member => ids ▸ member) rfl⟩
    · refine ⟨_,leading.requeueHeld sub.id fun other member apart => ?_⟩
      exact Ring.mem_remove_ids.mpr ⟨ids ▸ member,apart⟩
  -- a ready message is in the applied state, and its body is read
  rename_i unread
  exfalso
  have present : (s.applied.messages[id]?).isSome := by
    rw [leading.located.applied,(leading.located.ready id).mp at_]
    nofun
  obtain ⟨m,there⟩ := isSome_iff_exists.mp present
  have body : s.applied.view.bodyOf id = some (s.applied.fetch m.body) := by
    change s.applied.messages[id]?.map _ = _
    rw [there]
    rfl
  simp only [Reads,listed,head?_cons,all_some,body] at reads
  cases fetched : s.applied.fetch m.body with
  | none => simp [fetched] at reads
  | some bytes => exact unread bytes (body.trans (congrArg some fetched))

lemma deliverTurn_sound {live : Bool} (reads : s.Reads (.deliver live) = true) :
    (s.deliverTurn live).Sound p before := by
  obtain ⟨place,leading⟩ := deliverReady_sound sound reads
  unfold deliverTurn
  split
  · exact ⟨place,leading⟩
  · exact ⟨place,leading⟩

lemma step_sound {event : LeaderEvent} (reads : s.Reads event = true)
    (ok : s.step p event = some t) : t.Sound p before := by
  obtain ⟨place,leading⟩ := sound
  cases event with
  | receive msg residentBytes enqueuedMs =>
    simp only [step] at ok
    split at ok
    · cases ok
      exact moved_sound (handleMsg_goes leading (s.applied.view_failures residentBytes) enqueuedMs msg)
    · cases ok
  | complete =>
    simp only [step] at ok
    split at ok
    next there =>
      cases ok
      obtain ⟨inside,here⟩ := List.getElem?_eq_some_iff.mp there
      have perm := (getElem_cons_eraseIdx_perm inside).symm
      rw [here] at perm
      exact leading.complete perm
    · cases ok
  | apply =>
    simp only [step] at ok
    split at ok
    next there =>
      obtain ⟨⟨_,_⟩,done,rfl⟩ := map_eq_some_iff.mp ok
      obtain ⟨inside,here⟩ := List.getElem?_eq_some_iff.mp there
      have perm := (getElem_cons_eraseIdx_perm inside).symm
      rw [here] at perm
      exact leading.apply perm done
    · cases ok
  | expire =>
    simp only [step] at ok
    split at ok
    · cases ok
      exact expireTurn_sound ⟨place,leading⟩ _
    · cases ok
  | deliver =>
    simp only [step] at ok
    split at ok
    · cases ok
      exact deliverTurn_sound ⟨place,leading⟩ reads
    · cases ok

end

lemma start_sound {applied : QueueState} (numbered : applied.Numbered) (p : EffectivePolicy) :
    (start applied).Sound p applied.failuresOf := by
  have ready : ∀ id, id ∈ (ofList applied.messages.keys : ExtTreeSet Nat compare) ↔ (applied.messages[id]?).isSome := by
    intro id
    rw [ExtTreeSet.mem_ofList,List.contains_iff_mem,ExtTreeMap.mem_keys,ExtTreeMap.mem_iff_isSome_getElem?]
  refine ⟨fun id => if (applied.messages[id]?).isSome then .ready else .absent,⟨?_,?_,?_,?_,?_,?_,?_,?_,?_⟩,?_⟩
  · intro id
    change id ∈ ofList applied.messages.keys compare ↔ _
    split <;> simp_all
  · intro id sub
    change (∅ : Map Nat SubId)[id]? = some sub ↔ _
    split <;> simp
  · intro id
    split <;> simp [start]
  · intro id
    split <;> simp [start]
  · intro id
    change (applied.messages[id]?).isSome ↔ _
    split <;> simp_all
  · intro id sub held
    split at held <;> cases held
  · exact nodup_nil
  · exact nodup_nil
  · intro id present
    split at present
    next there =>
      exact numbered id there
    · exact absurd rfl present
  · intro id _
    refine ⟨fun _ => ⟨rfl,not_mem_nil,rfl⟩,fun n there => ?_,fun _ _ _ => Or.inl rfl⟩
    cases there

inductive Whereabouts where
  | ready
  | inflight
  | removing
  | enqueued

def isIn (s : Leader) (id : Nat) : Whereabouts → Prop
  | .ready => id ∈ s.queue.ready
  | .inflight => ∃ sub, s.queue.inflight[id]? = some sub ∧ sub ∈ s.queue.ring.ids
  | .removing => ∃ again, .remove id again ∈ s.proposed
  | .enqueued => ∃ ack body enqueuedMs, (.publish ack body enqueuedMs,.enqueued id) ∈ s.answered

variable {id : Nat}

lemma mem_removals {proposed : List Proposal} :
    id ∈ proposed.filterMap removal? ↔ ∃ again, .remove id again ∈ proposed := by
  rw [mem_filterMap]
  constructor
  · rintro ⟨proposal,member,same⟩
    cases proposal <;> cases same
    exact ⟨_,member⟩
  · rintro ⟨again,member⟩
    exact ⟨_,member,rfl⟩

lemma mem_arrivals {answered : List (Proposal × QueueResponse)} :
    id ∈ answered.filterMap arrival? ↔ ∃ ack body enqueuedMs, (.publish ack body enqueuedMs,.enqueued id) ∈ answered := by
  rw [mem_filterMap]
  constructor
  · rintro ⟨⟨proposal,response⟩,member,same⟩
    cases proposal with
    | publish ack body enqueuedMs =>
      cases response <;> cases same
      exact ⟨ack,body,enqueuedMs,member⟩
    | remove | countFailure => cases same
  · rintro ⟨ack,body,enqueuedMs,member⟩
    exact ⟨_,member,rfl⟩

private def whereabouts : Site → Option Whereabouts
  | .absent => none
  | .ready => some .ready
  | .held _ => some .inflight
  | .removing => some .removing
  | .arriving => some .enqueued

lemma isIn_iff {place : Nat → Site}
    (leading : Leading p before s.applied s.answered s.failed s.queue s.proposed place) (id : Nat)
    (here : Whereabouts) : s.isIn id here ↔ whereabouts (place id) = some here := by
  have located := leading.located
  cases here with
  | ready =>
    refine (located.ready id).trans ?_
    cases place id <;> simp [whereabouts]
  | inflight =>
    have held : s.isIn id .inflight ↔ ∃ sub, place id = .held sub := by
      refine exists_congr fun sub => ?_
      rw [located.held]
      exact ⟨fun both => both.1,fun held => ⟨held,located.registered id sub held⟩⟩
    refine held.trans ?_
    cases place id <;> simp [whereabouts]
  | removing =>
    refine mem_removals.symm.trans ((located.removing id).trans ?_)
    cases place id <;> simp [whereabouts]
  | enqueued =>
    refine mem_arrivals.symm.trans ((located.arriving id).trans ?_)
    cases place id <;> simp [whereabouts]

lemma Sound.one_place (sound : s.Sound p before) (present : (s.applied.messages[id]?).isSome) :
    ∃! here, s.isIn id here := by
  obtain ⟨place,leading⟩ := sound
  obtain ⟨here,at_⟩ : ∃ here, whereabouts (place id) = some here := by
    have somewhere := (leading.located.applied id).mp present
    cases placed : place id with
    | absent => exact absurd placed somewhere
    | ready | held _ | removing | arriving => exact ⟨_,rfl⟩
  refine ⟨here,(isIn_iff leading id here).mpr at_,fun other there => ?_⟩
  exact some.inj (((isIn_iff leading id other).mp there).symm.trans at_)

/-- What a failed delivery does: below the limit the message is ready again and the failure is counted, at the limit it
is handed to the dead-letter router and its removal is proposed. -/
structure KeepsLimit (p : EffectivePolicy) (before : UInt32) (s : Leader) (id : Nat) (after : QuorumQueue × List QueueEffect) :
    Prop where
  dead : ReachesLimit p before (s.failed id + 1) → after.1.commits = s.queue.commits ++ [.remove id false] ∧
    ∀ m body, s.applied.messages[id]? = some m → s.applied.fetch m.body = some body → after.2 = p.sendDead body
  spared : ¬ ReachesLimit p before (s.failed id + 1) →
    after.1.commits = s.queue.commits ++ [.countFailure id] ∧ id ∈ after.1.ready ∧ after.2 = []
  exact : ∀ limit, p.maxAttempts = some limit → before.toNat < limit.toNat →
    (ReachesLimit p before (s.failed id + 1) ↔ before.toNat + (s.failed id + 1) = limit.toNat)

lemma Sound.keepsLimit (sound : s.Sound p before) {sub : SubId}
    (owned : s.queue.inflight[id]? = some sub) (room : (before id).toNat + 1 < UInt32.size)
    (residentBytes now : Nat) : s.KeepsLimit p (before id) id
      (s.queue.handleMsg p {s.applied.view with residentBytes} now (.settle sub id .requeueFailed)) := by
  obtain ⟨place,leading⟩ := sound
  have counted := leading.countedAt owned
  have handled : s.queue.handleMsg p {s.applied.view with residentBytes} now (.settle sub id .requeueFailed) =
      if p.attemptsExhausted (failureCount s.queue.failures[id]? (s.applied.failuresOf id)) then
        (propose {s.queue with inflight := s.queue.inflight.erase id,failures := s.queue.failures.erase id}
          (.remove id false),deadLetterStored p {s.applied.view with residentBytes} id)
      else (propose {s.queue with
          inflight := s.queue.inflight.erase id
          failures := s.queue.failures.insert id (failureCount s.queue.failures[id]? (s.applied.failuresOf id))
          ready := s.queue.ready.insert id} (.countFailure id),[]) := by
    rw [handleMsg,if_pos owned,settle]
    rw [view_failures]
    rfl
  rw [handled]
  refine ⟨fun reached => ?_,fun short => ?_,fun limit limited below => ?_⟩
  · rw [if_pos ((counted.exhausted_iff room).mpr reached)]
    refine ⟨rfl,fun m body there fetched => ?_⟩
    have stored : s.applied.view.bodyOf id = some (some body) := by
      change s.applied.messages[id]?.map _ = _
      rw [there,← fetched]
      rfl
    simp only [deadLetterStored,stored]
  · rw [if_neg fun exhausted => short ((counted.exhausted_iff room).mp exhausted)]
    exact ⟨rfl,mem_insert_iff.mpr (Or.inl rfl),rfl⟩
  have least : (before id).toNat + (s.failed id + 1) ≤ limit.toNat := by
    rcases counted.within room limit limited with none|less <;> omega
  constructor
  · rintro ⟨other,same,reached⟩
    cases limited.symm.trans same
    exact Nat.le_antisymm least reached
  · exact fun total => ⟨limit,limited,total.ge⟩

theorem one_place_and_limit (p : EffectivePolicy) (applied : QueueState) (numbered : applied.Numbered)
    (events : List LeaderEvent) (s : Leader)
    (reads : Transition.Meets (step p) (fun s event => s.Reads event = true) (start applied) events)
    (run : run (step p) (start applied) events = some s) :
    (∀ id : Nat, (s.applied.messages[id]?).isSome → ∃! here, s.isIn id here) ∧
    ∀ (id : Nat) (sub : SubId) (residentBytes now : Nat), s.queue.inflight[id]? = some sub →
      (applied.failuresOf id).toNat + 1 < UInt32.size →
      s.KeepsLimit p (applied.failuresOf id) id
        (s.queue.handleMsg p {s.applied.view with residentBytes} now (.settle sub id .requeueFailed)) := by
  have sound : s.Sound p applied.failuresOf :=
    run_invariant (fun sound => step_sound sound) (start_sound numbered p) reads run
  exact ⟨fun id present => sound.one_place present,fun id sub residentBytes now owned room =>
    sound.keepsLimit owned room residentBytes now⟩

def limitPolicy : EffectivePolicy := ⟨none,10,100,false,some "dead",some 2,true⟩

def leftOver (failures : Nat) : QueueState :=
  ((QueueState.applyAll (fun _ => .none) 0 (.start none)
    (.enqueue [7] 0::replicate failures (.settle 1 true))).map Prod.fst).getD (.start none)

lemma leftOver_numbered (failures : Nat) : (leftOver failures).Numbered := by
  have start := QueueState.start_numbered none
  unfold leftOver
  cases ok : QueueState.applyAll (fun _ => .none) 0 (.start none) (.enqueue [7] 0::replicate failures (.settle 1 true)) with
  | none => exact start
  | some => exact QueueState.applyAll_numbered start ok

def oneDelivery : List LeaderEvent :=
  [.receive (.subscribe (.connection 0) 0 0 0) 0 0 0,.expire,.deliver true,.receive (.demand 1 1 false) 0 0 0,.expire,
    .deliver true,.deliver true]

theorem one_place_and_limit_second :
    ∃ s, run (step limitPolicy) (start (leftOver 1)) oneDelivery = some s ∧
      (∃! here, s.isIn 1 here) ∧ s.KeepsLimit limitPolicy 1 1
        (s.queue.handleMsg limitPolicy {s.applied.view with residentBytes := 1} 0 (.settle 1 1 .requeueFailed)) := by
  obtain ⟨s,run,present,owned⟩ : ∃ s, run (step limitPolicy) (start (leftOver 1)) oneDelivery = some s ∧
      ((s.applied.messages[1]?).isSome ∧ s.queue.inflight[1]? = some 1) :=
    reaches_of_any (by decide +kernel)
  obtain ⟨places,limits⟩ := one_place_and_limit limitPolicy (leftOver 1) (leftOver_numbered 1) oneDelivery s
    (meets_of_check (by decide +kernel)) run
  have once : (leftOver 1).failuresOf 1 = 1 := by decide +kernel
  exact ⟨s,run,places 1 present,once ▸ limits 1 1 1 0 owned (by decide +kernel)⟩

/-- The limit was lowered: a message that already failed three times is dead-lettered with its fourth failure. -/
theorem lowered_limit_overshot :
    ∃ s, run (step limitPolicy) (start (leftOver 3)) oneDelivery = some s ∧
      s.queue.inflight[1]? = some 1 ∧
      (s.queue.handleMsg limitPolicy s.applied.view 0 (.settle 1 1 .requeueFailed)).2 = [.deadLetter "dead" [7]] ∧
      limitPolicy.maxAttempts = some 2 ∧ ((leftOver 3).failuresOf 1).toNat + (s.failed 1 + 1) = 4 :=
  reaches_of_any (by decide +kernel)

end Leader

end Ramqp
