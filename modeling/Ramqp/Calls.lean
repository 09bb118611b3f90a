import Ramqp.Dispatch
import Ramqp.Semantics.Exchange

/-! What a turn of a queue actor does to the slots that commits hold at the queue and to the requests
they have made of it: a request is answered at once or goes under way, and only commits' messages move the
count of slots. -/
namespace Ramqp

open Std QueueEffect List Option QueueMsg Function Bool

def QueueMsg.slots : QueueMsg → Nat
  | .unreserve count => count
  | .publishReserved _ _ => 1
  | _ => 0

def QueueMsg.granted (answers : List (Nat × Bool)) : QueueMsg → Nat
  | .reserve count reply => if (reply,true) ∈ answers then count else 0
  | _ => 0

structure Stand where
  slots : Nat
  callers : List Nat

variable {p : EffectivePolicy} {s next : Stand} {msg : QueueMsg} {answers : List (Nat × Bool)} {ack : Option PublishAck}

def QueueEffect.background : QueueEffect → Bool
  | .ended _ _ _ => true
  | .deadLetter _ _ => true
  | .command _ (.deliver _ _ _ _ _) => true
  | _ => false

inductive Response (p : EffectivePolicy) (s : Stand) : QueueMsg → List (Nat × Bool) → Stand → Prop where
  | reserve (count : Nat) (reply : Reply) (ok : Bool) : Response p s (.reserve count reply) [(reply,ok)]
      {s with slots := if ok && !p.dropHead then s.slots + count else s.slots}
  | unreserve (count : Nat) : Response p s (.unreserve count) [] {s with slots := s.slots - count}
  | publish (body : Bytes) (ack : Option PublishAck) (ok : Bool) : Response p s (.publish body ack)
      ((callerOf ack).toList.map (·,ok)) s
  | publishLater (body : Bytes) (ack : Option PublishAck) : Response p s (.publish body ack) []
      {s with callers := s.callers ++ (callerOf ack).toList}
  | publishReserved (body : Bytes) (ack : Option PublishAck) (ok : Bool) : Response p s (.publishReserved body ack)
      ((callerOf ack).toList.map (·,ok)) {s with slots := s.slots - 1}
  | publishReservedLater (body : Bytes) (ack : Option PublishAck) : Response p s (.publishReserved body ack) []
      ⟨s.slots - 1,s.callers ++ (callerOf ack).toList⟩
  | subscribe (conn : ConnRef) (channel : UInt16) (handle : UInt32) (bindingGen : Nat) :
      Response p s (.subscribe conn channel handle bindingGen) [] s
  | demand (sub : SubId) (credit : UInt32) (drain : Bool) : Response p s (.demand sub credit drain) [] s
  | settle (sub : SubId) (msgId : Nat) (outcome : SettleOutcome) : Response p s (.settle sub msgId outcome) [] s
  | unsubscribe (sub : SubId) : Response p s (.unsubscribe sub) [] s
  | stats (reply : Reply) : Response p s (.stats reply) [] s

/-- A publish that is answered at once or goes under way, with a slot of its own or one that was held. -/
lemma Response.published {body : Bytes} {fromReserved : Bool} {slots : Nat}
    (used : slots = if fromReserved then s.slots - 1 else s.slots)
    (answered : next = {s with slots} ∧ (∃ ok, answers = (callerOf ack).toList.map (·,ok)) ∨
      next = ⟨slots,s.callers ++ (callerOf ack).toList⟩ ∧ answers = []) :
    Response p s (if fromReserved then .publishReserved body ack else .publish body ack) answers next := by
  subst used
  rcases answered with ⟨rfl,ok,rfl⟩ | ⟨rfl,rfl⟩ <;> cases fromReserved
  · exact .publish body ack ok
  · exact .publishReserved body ack ok
  · exact .publishLater body ack
  · exact .publishReservedLater body ack

lemma Response.reserves (count reply : Nat) : Response p s (.reserve count reply) [(reply,ok)]
    (if ok && !p.dropHead then {s with slots := s.slots + count} else s) := by
  have response := Response.reserve (p := p) (s := s) count reply ok
  split at response <;> simp [*]

lemma Response.calls (response : Response p s msg answers next) :
    (next.callers ++ answers.map Prod.fst).Perm (s.callers ++ msg.caller.toList) := by
  cases response with
  | publishLater | publishReservedLater => simp [caller]
  | publish | publishReserved => simp [caller,comp_def]
  | _ => simp [caller]

lemma Response.single (response : Response p s msg answers next) :
    ∃ reply : Option (Nat × Bool), answers = reply.toList := by
  cases response with
  | reserve count reply ok => exact ⟨some (reply,ok),rfl⟩
  | publish body ack ok | publishReserved body ack ok =>
    exact ⟨(callerOf ack).map (·,ok),by cases callerOf ack <;> rfl⟩
  | _ => exact ⟨none,rfl⟩

variable {id : Nat}

section

variable (response : Response p s msg answers next)

include response

lemma Response.caller (answered : (id,ok) ∈ answers) : msg.caller = some id := by
  cases response <;> simp_all [caller]

lemma Response.slots (policy : p.dropHead = false)
    (enough : msg.slots ≤ s.slots) : next.slots + msg.slots = s.slots + msg.granted answers := by
  cases response with
  | reserve count reply ok => cases ok <;> simp [policy,slots,granted]
  | unreserve | publishReserved | publishReservedLater => exact Nat.sub_add_cancel enough
  | _ => rfl

lemma Response.dropHead (policy : p.dropHead = true)
    (none : s.slots = 0) : next.slots = 0 := by
  cases response <;> simp_all

end

lemma answer_background {effects : List QueueEffect} (quiet : effects.all background = true) :
    effects.filterMap answer = [] := by
  rw [filterMap_eq_nil_iff]
  intro effect member
  have silent := all_eq_true.mp quiet effect member
  cases effect with
  | command conn cmd => cases cmd <;> cases conn <;> first | rfl | cases silent
  | reserved => cases silent
  | _ => rfl

def QueueMsg.publisher : QueueMsg → Option Nat
  | .publish _ ack => callerOf ack
  | .publishReserved _ ack => callerOf ack
  | _ => none

def QueueEffect.storedFor (id : Nat) : QueueEffect → Option Bytes
  | .stored _ body ack => if callerOf ack = some id then some body else none
  | _ => none

lemma storedFor_background (id : Nat) {effects : List QueueEffect} (quiet : effects.all background = true) :
    effects.filterMap (storedFor id) = [] := by
  rw [filterMap_eq_nil_iff]
  intro effect member
  have silent := all_eq_true.mp quiet effect member
  cases effect with
  | stored => cases silent
  | _ => rfl

lemma confirmPublish_storedFor : (confirmPublish ack).filterMap (storedFor id) = [] := by
  cases ack <;> rfl

lemma refusePublish_storedFor : (refusePublish ack).filterMap (storedFor id) = [] := by
  cases ack <;> rfl

lemma sendDead_background : (p.sendDead body).all background = true := by
  unfold EffectivePolicy.sendDead
  split
  · split <;> rfl
  · rfl

lemma confirmPublish_answer : (confirmPublish ack).filterMap answer = (callerOf ack).toList.map (·,true) := by
  rcases ack with _|⟨_|_|_,channel,handle,gen,delivery⟩ <;> rfl

lemma refusePublish_answer : (refusePublish ack).filterMap answer = (callerOf ack).toList.map (·,false) := by
  rcases ack with _|⟨_|_|_,channel,handle,gen,delivery⟩ <;> rfl

variable {q : TransientQueue} {now len : Nat}

namespace TransientQueue

def stand (q : TransientQueue) : Stand := ⟨q.reserved,[]⟩

def Quiet (q : TransientQueue) (result : TransientQueue × List QueueEffect) : Prop :=
  result.1.stand = q.stand ∧ result.2.all background = true

variable (p) {ready : List Stored}

lemma Sheds.background {ending : Ending} {result : TransientQueue × List QueueEffect} (sheds : Sheds p ending q result) :
    result.2.all background = true := by
  induction sheds with
  | stop => rfl
  | next _ _ ih =>
    rw [all_append,ih,Bool.and_true]
    exact sendDead_background

lemma deliverReady_quiet (live : Nat → ConnRef → Bool) (fuel : Nat) (q : TransientQueue) :
    q.Quiet (q.deliverReady live fuel) := by
  induction fuel generalizing q with
  | zero => exact ⟨rfl,rfl⟩
  | succ fuel ih =>
    unfold deliverReady
    split
    · exact ⟨rfl,rfl⟩
    split
    · exact ⟨rfl,rfl⟩
    rename_i msg rest _ _ sub ring _
    split
    · have later := ih {q with ready := rest,ring,unacked := q.unacked.insert msg.id (msg,sub.id)}
      exact ⟨later.1,later.2⟩
    · exact ih _

lemma dispatch_quiet (live : Nat → ConnRef → Bool) (now : Nat) (q : TransientQueue) : q.Quiet (q.dispatch p live now) := by
  have sheds := expire_sheds p now q
  have expired := sheds.background
  have sent := deliverReady_quiet live (q.expire p now).1.turns (q.expire p now).1
  refine ⟨sent.1.trans (congrArg (Stand.mk · []) sheds.onlyReady.reserved),?_⟩
  unfold dispatch
  rw [all_append,expired,sent.2]
  rfl

lemma publish_response (now : Nat) (q : TransientQueue) (body : Bytes) (ack : Option PublishAck) (fromReserved : Bool) :
    Response p q.stand (if fromReserved then .publishReserved body ack else .publish body ack)
      ((q.publish p now body ack fromReserved).2.1.filterMap answer) (q.publish p now body ack fromReserved).1.stand := by
  have used : (q.useSlot fromReserved).reserved = if fromReserved then q.reserved - 1 else q.reserved := by
    cases fromReserved <;> rfl
  have sheds := roomFor_sheds p body.length (q.useSlot fromReserved)
  have room := answer_background sheds.background
  have slots := sheds.onlyReady.reserved
  refine .published used (.inl ?_)
  unfold publish
  dsimp only
  split
  · refine ⟨congrArg (Stand.mk · []) slots,false,?_⟩
    rw [filterMap_append,room,refusePublish_answer]
    rfl
  refine ⟨congrArg (Stand.mk · []) slots,true,?_⟩
  rw [filterMap_append,room,filterMap_cons]
  exact confirmPublish_answer

lemma settle_quiet (q : TransientQueue) (stored : Stored) (outcome : SettleOutcome) :
    q.Quiet (q.settle p stored outcome) := by
  cases outcome with
  | requeueFailed =>
    unfold settle
    dsimp only
    split
    · exact ⟨rfl,sendDead_background⟩
    · exact ⟨rfl,rfl⟩
  | _ => exact ⟨rfl,rfl⟩

lemma handle_response :
    Response p q.stand msg ((q.handle p now msg).2.1.filterMap answer) (q.handle p now msg).1.stand := by
  cases msg with
  | publish body ack => exact q.publish_response p now body ack false
  | publishReserved body ack => exact q.publish_response p now body ack true
  | reserve count reply =>
    obtain ⟨ok,same⟩ : ∃ ok, q.handle p now (.reserve count reply) =
        (if ok && !p.dropHead then {q with reserved := q.reserved + count} else q,[.reserved reply ok],true) :=
      ⟨_,rfl⟩
    rw [same,apply_ite stand]
    exact .reserves count reply
  | unreserve | subscribe | demand | unsubscribe | stats => constructor
  | settle sub msgId outcome =>
    simp only [handle]
    split
    next stored owner _ =>
      split
      · have quiet := settle_quiet p {q with unacked := q.unacked.erase msgId} stored outcome
        rw [quiet.1,answer_background quiet.2]
        exact .settle sub msgId outcome
      · exact .settle sub msgId outcome
    · exact .settle sub msgId outcome

lemma publishReserved_stored (now : Nat) (q : TransientQueue) (body : Bytes)
    (ack : Option PublishAck) (id : Nat) :
    (q.publish p now body ack true).2.1.filterMap (storedFor id) = (if callerOf ack = some id then [body] else []) ∧
    (q.publish p now body ack true).2.1.filterMap answer = (callerOf ack).toList.map (·,true) := by
  have room := (roomFor_sheds p body.length (q.useSlot true)).background
  unfold publish
  simp only [Bool.not_true,Bool.and_false,Bool.false_eq_true,if_false]
  rw [filterMap_append,filterMap_append,storedFor_background id room,answer_background room,
    filterMap_cons,filterMap_cons,confirmPublish_storedFor]
  refine ⟨?_,confirmPublish_answer⟩
  by_cases mine : callerOf ack = some id <;> simp [storedFor,mine]

variable {p}

lemma publish_storedFor {now : Nat} {q : TransientQueue} {body : Bytes}
    {ack : Option PublishAck} {fromReserved : Bool} (other : callerOf ack ≠ some id) :
    (q.publish p now body ack fromReserved).2.1.filterMap (storedFor id) = [] := by
  have room := storedFor_background id (roomFor_sheds p body.length (q.useSlot fromReserved)).background
  unfold publish
  dsimp only
  split
  · rw [filterMap_append,room,refusePublish_storedFor]
    rfl
  · rw [filterMap_append,room,filterMap_cons,confirmPublish_storedFor]
    simp [storedFor,other]

lemma handle_storedFor (p : EffectivePolicy) (now : Nat) (q : TransientQueue)
    (other : msg.publisher ≠ some id) : (q.handle p now msg).2.1.filterMap (storedFor id) = [] := by
  cases msg with
  | publish | publishReserved => exact publish_storedFor other
  | settle sub msgId outcome =>
    simp only [handle]
    split
    · split
      · exact storedFor_background id (settle_quiet p _ _ outcome).2
      · rfl
    · rfl
  | _ => rfl

end TransientQueue

private def DurableEffect.reply (effect : DurableEffect) : Option (Nat × Bool) :=
  effect.sent.bind QueueEffect.answer

lemma sent_answer (effects : List DurableEffect) :
    (effects.filterMap DurableEffect.sent).filterMap QueueEffect.answer = effects.filterMap DurableEffect.reply :=
  filterMap_filterMap

lemma send_answer (effects : List QueueEffect) :
    (effects.map DurableEffect.send).filterMap DurableEffect.reply = effects.filterMap QueueEffect.answer := by
  rw [filterMap_map]
  rfl

def DurableEffect.ownDoing : DurableEffect → Bool
  | .send effect => effect.background
  | _ => true

variable {effects : List DurableEffect}

lemma sent_background (quiet : effects.all DurableEffect.ownDoing = true) :
    (effects.filterMap DurableEffect.sent).all background = true := by
  rw [List.all_eq_true]
  intro effect member
  obtain ⟨source,listed,sent⟩ := mem_filterMap.mp member
  have silent := all_eq_true.mp quiet source listed
  cases source <;> cases sent
  exact silent

lemma reply_ownDoing (quiet : effects.all DurableEffect.ownDoing = true) :
    effects.filterMap DurableEffect.reply = [] := by
  rw [← sent_answer]
  exact answer_background (sent_background quiet)

variable {msgId : Nat}

namespace DurableQueue

open DurableEffect

def callers (commits : List PendingPublish) : List Nat := commits.filterMap fun pending => callerOf pending.ack

lemma callers_snoc (commits : List PendingPublish) (pending : PendingPublish) :
    callers (commits ++ [pending]) = callers commits ++ (callerOf pending.ack).toList := by
  rw [callers,filterMap_append,filterMap_cons]
  cases callerOf pending.ack <;> rfl

def stand (q : DurableQueue) : Stand := ⟨q.reserved,callers q.commits⟩

def Quiet (q : DurableQueue) (result : DurableQueue × List DurableEffect) : Prop :=
  result.1.stand = q.stand ∧ result.2.all ownDoing = true

variable (p)

lemma deadLetterThenRemove_background (queue : Nat) (body : Option Bytes)
    (ending : Ending) : (deadLetterThenRemove p queue msgId body ending).all ownDoing = true := by
  unfold deadLetterThenRemove
  split
  · split <;> rfl
  · rfl

variable (queue : Nat) {read : Nat → Option Bytes} {entries : List (Nat × Nat × Nat)}

lemma Quiet.letGo {q : DurableQueue} {result : DurableQueue × List DurableEffect} (later : (q.letGo msgId len).Quiet result)
    (body : Option Bytes) (ending : Ending) :
    q.Quiet (result.1,deadLetterThenRemove p queue msgId body ending ++ result.2) := by
  refine ⟨later.1,?_⟩
  rw [all_append,later.2,deadLetterThenRemove_background]
  rfl

lemma makeRoom_quiet (q : DurableQueue) : q.Quiet (makeRoom p queue read len entries q) := by
  induction entries generalizing q with
  | nil => exact ⟨rfl,rfl⟩
  | cons old rest ih =>
    unfold makeRoom
    split
    · exact (ih _).letGo p queue _ .maxlen
    · exact ⟨rfl,rfl⟩

lemma roomFor_quiet (read : Nat → Option Bytes) (len : Nat) (q : DurableQueue) :
    q.Quiet (q.roomFor p queue read len) := by
  unfold roomFor
  split
  · exact makeRoom_quiet p queue q
  · exact ⟨rfl,rfl⟩

lemma expireHead_quiet (read : Nat → Option Bytes) (now : Nat)
    (entries : List (Nat × Nat × Nat)) (q : DurableQueue) : q.Quiet (expireHead p queue read now entries q) := by
  induction entries generalizing q with
  | nil => exact ⟨rfl,rfl⟩
  | cons old rest ih =>
    unfold expireHead
    split
    · exact (ih _).letGo p queue _ .expired
    · exact ⟨rfl,rfl⟩

lemma deliver_quiet (live : ConnRef → Bool) (body : Bytes) (q : DurableQueue) (msgId enqueuedMs len : Nat)
    (sub : Subscriber) : q.Quiet (q.deliver live body msgId enqueuedMs len sub) := by
  unfold deliver
  split
  · exact ⟨rfl,rfl⟩
  · exact ⟨rfl,rfl⟩

lemma deliverReady_quiet (live : Nat → ConnRef → Bool) (read : Nat → Nat → Option Bytes) (fuel : Nat)
    (q : DurableQueue) : q.Quiet (q.deliverReady live read fuel) := by
  induction fuel generalizing q with
  | zero => exact ⟨rfl,rfl⟩
  | succ fuel ih =>
    unfold deliverReady
    split
    · exact ⟨rfl,rfl⟩
    split
    · exact ⟨rfl,rfl⟩
    rename_i msgId enqueuedMs len _ _ _ sub ring _
    split
    · exact ih _
    rename_i body _
    have given := deliver_quiet (live fuel) body {q with ring} msgId enqueuedMs len sub
    generalize {q with ring}.deliver (live fuel) body msgId enqueuedMs len sub = delivered at given ⊢
    have later := ih delivered.1
    refine ⟨later.1.trans given.1,?_⟩
    rw [all_append,given.2,later.2]
    rfl

lemma dispatch_quiet (live : Nat → ConnRef → Bool)
    (expiring : Nat → Option Bytes) (read : Nat → Nat → Option Bytes) (now : Nat) (q : DurableQueue) :
    q.Quiet (q.dispatch p queue live expiring read now) := by
  have expired : q.Quiet (q.expire p queue expiring now) := by
    unfold expire
    split
    · exact expireHead_quiet p queue expiring now q.ready.toList q
    · exact ⟨rfl,rfl⟩
  have sent := deliverReady_quiet live read (q.expire p queue expiring now).1.turns (q.expire p queue expiring now).1
  refine ⟨sent.1.trans expired.1,?_⟩
  unfold dispatch
  rw [all_append,expired.2,sent.2]
  rfl

section

variable (read : Nat → Option Bytes)

lemma publish_response (now : Nat) (q : DurableQueue) (body : Bytes) (ack : Option PublishAck) (fromReserved : Bool) :
    Response p q.stand (if fromReserved then .publishReserved body ack else .publish body ack)
      ((q.publish p queue read now body ack fromReserved).2.1.filterMap reply)
      (q.publish p queue read now body ack fromReserved).1.stand := by
  have used : (q.useSlot fromReserved).stand = {q.stand with slots := if fromReserved then q.reserved - 1 else q.reserved} := by
    cases fromReserved <;> rfl
  have room := roomFor_quiet p queue read body.length (q.useSlot fromReserved)
  rw [Quiet,used] at room
  refine .published rfl ?_
  unfold publish
  dsimp only
  split
  · refine .inl ⟨room.1,false,?_⟩
    rw [filterMap_append,reply_ownDoing room.2,send_answer,refusePublish_answer]
    rfl
  refine .inr ⟨?_,?_⟩
  · obtain ⟨slots,pending⟩ := Stand.mk.inj room.1
    simp only [stand,admitPublish,callers_snoc,slots,pending]
  · rw [filterMap_append,reply_ownDoing room.2]
    rfl

lemma settle_quiet (q : DurableQueue) (msgId enqueuedMs len : Nat) (outcome : SettleOutcome) :
    q.Quiet (q.settle p queue read msgId enqueuedMs len outcome) := by
  cases outcome with
  | requeueFailed =>
    unfold settle
    dsimp only
    split
    · exact ⟨rfl,deadLetterThenRemove_background p queue (read msgId) .deliveryLimit⟩
    · exact ⟨rfl,rfl⟩
  | _ => exact ⟨rfl,rfl⟩

lemma handle_response
    (q : DurableQueue) : Response p q.stand msg ((q.handle p queue read now msg).2.1.filterMap reply)
      (q.handle p queue read now msg).1.stand := by
  cases msg with
  | publish body ack => exact q.publish_response p queue read now body ack false
  | publishReserved body ack => exact q.publish_response p queue read now body ack true
  | reserve count reply =>
    obtain ⟨ok,same⟩ : ∃ ok, q.handle p queue read now (.reserve count reply) =
        (if ok && !p.dropHead then {q with reserved := q.reserved + count} else q,
          [.send (.reserved reply ok)],true) := ⟨_,rfl⟩
    rw [same,apply_ite stand]
    exact .reserves count reply
  | unreserve | subscribe | demand | unsubscribe | stats => constructor
  | settle sub msgId outcome =>
    simp only [handle]
    split
    next enqueuedMs len _ =>
      split
      · have quiet := settle_quiet p queue read {q with inflight := q.inflight.erase msgId} msgId enqueuedMs len outcome
        rw [quiet.1,reply_ownDoing quiet.2]
        exact .settle sub msgId outcome
      · exact .settle sub msgId outcome
    · exact .settle sub msgId outcome

lemma handle_storedFor (now : Nat) (q : DurableQueue) (msg : QueueMsg) (id : Nat) :
    ((q.handle p queue read now msg).2.1.filterMap sent).filterMap (storedFor id) = [] := by
  have publishes : ∀ body ack fromReserved,
      ((q.publish p queue read now body ack fromReserved).2.1.filterMap sent).filterMap (storedFor id) = [] := by
    intro body ack fromReserved
    have room := storedFor_background id
      (sent_background (roomFor_quiet p queue read body.length (q.useSlot fromReserved)).2)
    unfold publish
    dsimp only
    split
    · rw [filterMap_append,filterMap_append,room]
      cases ack <;> rfl
    · rw [filterMap_append,filterMap_append,room]
      rfl
  cases msg with
  | publish body ack => exact publishes body ack false
  | publishReserved body ack => exact publishes body ack true
  | settle sub msgId outcome =>
    simp only [handle]
    split
    · split
      · exact storedFor_background id (sent_background (settle_quiet p queue read _ _ _ _ outcome).2)
      · rfl
    · rfl
  | _ => rfl

end

variable {p}

lemma committed_storedFor (q : DurableQueue) (done : PendingPublish) (ok : Bool) (id : Nat) :
    ((q.committed done ok).2.filterMap sent).filterMap (storedFor id) = [] := by
  cases ok <;> unfold committed <;> cases done.ack <;> rfl

lemma committed_response (q : DurableQueue)
    (member : done ∈ q.commits) : (q.committed done ok).1.reserved = q.reserved ∧
    (callers (q.committed done ok).1.commits ++ (callerOf done.ack).toList).Perm (callers q.commits) ∧
    (q.committed done ok).2.filterMap reply = (callerOf done.ack).toList.map (·,ok) := by
  have left : (callers (q.commits.erase done) ++ (callerOf done.ack).toList).Perm (callers q.commits) := by
    rw [← callers_snoc]
    exact ((perm_append_singleton _ _).trans (perm_cons_erase member).symm).filterMap _
  cases ok with
  | true =>
    refine ⟨rfl,left,?_⟩
    simp only [committed,if_true,filterMap_cons]
    rw [send_answer]
    exact confirmPublish_answer
  | false =>
    refine ⟨rfl,left,?_⟩
    simp only [committed,false_eq_true,if_false]
    rw [send_answer]
    exact refusePublish_answer

end DurableQueue

def Proposal.caller : Proposal → Option Nat
  | .publish ack _ _ => callerOf ack
  | _ => none

namespace QuorumQueue

def callers (commits : List Proposal) : List Nat := commits.filterMap Proposal.caller

def stand (q : QuorumQueue) : Stand := ⟨q.reserved,callers q.commits⟩

def Quiet (q : QuorumQueue) (result : QuorumQueue × List QueueEffect) : Prop :=
  result.1.stand = q.stand ∧ result.2.all background = true

lemma callers_snoc (commits : List Proposal) :
    callers (commits ++ [proposal]) = callers commits ++ proposal.caller.toList := by
  rw [callers,filterMap_append,filterMap_cons]
  cases proposal.caller <;> rfl

lemma propose_stand (nobody : proposal.caller = none) (q : QuorumQueue) : (q.propose proposal).stand = q.stand := by
  rw [stand,propose,callers_snoc,nobody,toList_none,append_nil]
  rfl

variable (p)

section

variable (view : QueueView)

include view

lemma deadLetterStored_background : (deadLetterStored p view msgId).all background = true := by
  unfold deadLetterStored
  split
  · exact sendDead_background
  · rfl

lemma roomFor_quiet (fromReserved : Bool) (q : QuorumQueue) :
    (q.roomFor p view fromReserved).1.stand = q.stand ∧ (q.roomFor p view fromReserved).2.1.all background = true := by
  unfold roomFor
  split
  · split
    next oldId _ =>
      exact ⟨propose_stand rfl _,deadLetterStored_background p view⟩
    · exact ⟨rfl,rfl⟩
  · exact ⟨rfl,rfl⟩

lemma publish_response (now : Nat) (q : QuorumQueue) (body : Bytes) (ack : Option PublishAck)
    (fromReserved : Bool) :
    Response p q.stand (if fromReserved then .publishReserved body ack else .publish body ack)
      ((q.publish p view now body ack fromReserved).2.1.filterMap answer)
      (q.publish p view now body ack fromReserved).1.stand := by
  have used : (q.useSlot fromReserved).stand = {q.stand with slots := if fromReserved then q.reserved - 1 else q.reserved} := by
    cases fromReserved <;> rfl
  have room := roomFor_quiet p view fromReserved (q.useSlot fromReserved)
  rw [used] at room
  refine .published rfl ?_
  unfold publish
  generalize (q.useSlot fromReserved).roomFor p view fromReserved = made at room ⊢
  have refused : (made.2.1 ++ refusePublish ack).filterMap answer = (callerOf ack).toList.map (·,false) := by
    rw [filterMap_append,answer_background room.2,refusePublish_answer]
    rfl
  dsimp only
  split
  · exact .inl ⟨room.1,false,refused⟩
  split
  · exact .inl ⟨room.1,false,refused⟩
  refine .inr ⟨?_,answer_background room.2⟩
  obtain ⟨slots,pending⟩ := Stand.mk.inj room.1
  simp only [stand,propose,callers_snoc,slots,pending,Proposal.caller]

lemma settle_quiet (q : QuorumQueue) (msgId : Nat) (outcome : SettleOutcome) :
    q.Quiet (q.settle p view msgId outcome) := by
  cases outcome with
  | requeueFailed =>
    unfold settle
    dsimp only
    split
    · exact ⟨propose_stand rfl _,deadLetterStored_background p view⟩
    · exact ⟨propose_stand rfl _,rfl⟩
  | requeue => exact ⟨rfl,rfl⟩
  | ack | drop => exact ⟨propose_stand rfl _,rfl⟩

lemma handleMsg_response (q : QuorumQueue) :
    Response p q.stand msg ((q.handleMsg p view now msg).2.filterMap answer) (q.handleMsg p view now msg).1.stand := by
  cases msg with
  | publish body ack => exact q.publish_response p view now body ack false
  | publishReserved body ack => exact q.publish_response p view now body ack true
  | reserve count reply =>
    obtain ⟨ok,same⟩ : ∃ ok, q.handleMsg p view now (.reserve count reply) =
        (if ok && !p.dropHead then {q with reserved := q.reserved + count} else q,[.reserved reply ok]) := ⟨_,rfl⟩
    rw [same,apply_ite stand]
    exact .reserves count reply
  | unreserve | subscribe | demand | unsubscribe | stats => constructor
  | settle sub msgId outcome =>
    simp only [handleMsg]
    split
    · have quiet := settle_quiet p view {q with inflight := q.inflight.erase msgId} msgId outcome
      rw [quiet.1,answer_background quiet.2]
      exact .settle sub msgId outcome
    · exact .settle sub msgId outcome

lemma expireHead_quiet (ids : List Nat) (q : QuorumQueue) : q.Quiet (expireHead p view now ids q) := by
  induction ids generalizing q with
  | nil => exact ⟨rfl,rfl⟩
  | cons head rest ih =>
    unfold expireHead
    split
    · have later := ih ({q with ready := q.ready.erase head}.propose (.remove head false))
      refine ⟨later.1.trans (propose_stand rfl _),?_⟩
      rw [all_append,later.2,deadLetterStored_background]
      rfl
    · exact ⟨rfl,rfl⟩

lemma expire_quiet (now : Nat) (q : QuorumQueue) : q.Quiet (q.expire p view now) := by
  unfold expire
  split
  · exact expireHead_quiet p view q.ready.toList q
  · exact ⟨rfl,rfl⟩

end

lemma deliverReady_quiet (live : Nat → ConnRef → Bool) (view : Nat → QueueView) (fuel : Nat)
    (q : QuorumQueue) : q.Quiet (q.deliverReady live view fuel) := by
  induction fuel generalizing q with
  | zero => exact ⟨rfl,rfl⟩
  | succ fuel ih =>
    unfold deliverReady
    split
    · exact ⟨rfl,rfl⟩
    split
    · exact ⟨rfl,rfl⟩
    rename_i msgId _ _ _ sub ring _
    split
    · split
      · have later := ih {q with ready := q.ready.erase msgId,ring,inflight := q.inflight.insert msgId sub.id}
        exact ⟨later.1,later.2⟩
      · exact ih _
    · exact ih _

lemma committed_response (q : QuorumQueue) (member : done ∈ q.commits) : ∃ reply : Option (Nat × Bool),
    (q.committed done result).2.filterMap answer = reply.toList ∧ (q.committed done result).1.reserved = q.reserved ∧
    (callers (q.committed done result).1.commits ++ (reply.map Prod.fst).toList).Perm (callers q.commits) := by
  have left : (callers (q.commits.erase done ++ [done])).Perm (callers q.commits) :=
    ((perm_append_singleton _ _).trans (perm_cons_erase member).symm).filterMap _
  rw [callers_snoc] at left
  cases done with
  | publish ack =>
    cases result with
    | some =>
      refine ⟨(callerOf ack).map (·,true),confirmPublish_answer.trans toList_map.symm,rfl,?_⟩
      simpa [committed,comp_def,Proposal.caller] using left
    | none =>
      refine ⟨(callerOf ack).map (·,false),refusePublish_answer.trans toList_map.symm,rfl,?_⟩
      simpa [committed,comp_def,Proposal.caller] using left
  | remove =>
    refine ⟨none,rfl,?_,?_⟩
    · simp only [committed]
      split <;> rfl
    · simp only [committed]
      split <;> exact left
  | countFailure =>
    exact ⟨none,rfl,rfl,left⟩

lemma handleMsg_storedFor (view : QueueView) (now : Nat) (q : QuorumQueue)
    (msg : QueueMsg) (id : Nat) : (q.handleMsg p view now msg).2.filterMap (storedFor id) = [] := by
  have publishes : ∀ body ack fromReserved,
      (q.publish p view now body ack fromReserved).2.1.filterMap (storedFor id) = [] := by
    intro body ack fromReserved
    have room := storedFor_background id (roomFor_quiet p view fromReserved (q.useSlot fromReserved)).2
    unfold publish
    generalize (q.useSlot fromReserved).roomFor p view fromReserved = made at room ⊢
    have refused : (made.2.1 ++ refusePublish ack).filterMap (storedFor id) = [] := by
      rw [filterMap_append,room,refusePublish_storedFor]
      rfl
    dsimp only
    split
    · exact refused
    split
    · exact refused
    · exact room
  cases msg with
  | publish body ack => exact publishes body ack false
  | publishReserved body ack => exact publishes body ack true
  | settle sub msgId outcome =>
    simp only [handleMsg]
    split
    · exact storedFor_background id (settle_quiet p view _ _ outcome).2
    · rfl
  | _ => rfl

variable {p}

lemma committed_storedFor (q : QuorumQueue) (done : Proposal) (result : Option Nat)
    (other : done.caller ≠ some id) : (q.committed done result).2.filterMap (storedFor id) = [] := by
  cases done with
  | publish ack body =>
    cases result with
    | none => exact refusePublish_storedFor
    | some msgId =>
      change (stored msgId body ack::confirmPublish ack).filterMap (storedFor id) = []
      rw [filterMap_cons,confirmPublish_storedFor]
      have foreign : callerOf ack ≠ some id := other
      simp [storedFor,foreign]
  | _ => rfl

end QuorumQueue

namespace QueueActor

variable {actor : QueueActor} {cfg : QueueConfig} {m : Moment} {place : Nat} {result : Option Nat}
  {effects : List QueueEffect}

def stand : QueueActor → Stand
  | .transient q => q.stand
  | .durable q => q.stand
  | .quorum q => q.stand

lemma stand_slots : actor.stand.slots = actor.reserved := by
  cases actor <;> rfl

lemma Fresh.stand (fresh : actor.Fresh) : actor.stand = ⟨0,[]⟩ := by
  cases fresh <;> rfl

lemma dispatch_quiet (cfg : QueueConfig) (m : Moment) (actor : QueueActor) :
    (actor.dispatch cfg m).1.stand = actor.stand ∧ (actor.dispatch cfg m).2.all background = true := by
  cases actor with
  | transient q => exact q.dispatch_quiet cfg.policy m.live m.later
  | durable q =>
    have quiet := q.dispatch_quiet cfg.policy cfg.storeId m.live m.expiring.read
      (fun turn => (m.delivering turn).read) m.later
    exact ⟨quiet.1,sent_background quiet.2⟩
  | quorum q =>
    have expired := q.expire_quiet cfg.policy m.expiring m.later
    have sent := (q.expire cfg.policy m.expiring m.later).1.deliverReady_quiet m.live m.delivering
      (q.expire cfg.policy m.expiring m.later).1.turns
    refine ⟨sent.1.trans expired.1,?_⟩
    simp only [dispatch,all_append,expired.2,sent.2,Bool.and_self]

/-- A turn shows what the message brings about, with nothing more in what the dispatch after it cannot show. -/
lemma turn_shows {α : Type} {show_ : QueueEffect → Option α}
    (silent : ∀ {effects : List QueueEffect}, effects.all background = true → effects.filterMap show_ = [])
    (cfg : QueueConfig) (m : Moment) (actor : QueueActor) (msg : QueueMsg) :
    (actor.turn cfg m msg).1.stand = (actor.handle cfg m msg).1.stand ∧
      (actor.turn cfg m msg).2.filterMap show_ = (actor.handle cfg m msg).2.1.filterMap show_ := by
  have quiet := dispatch_quiet cfg m (actor.handle cfg m msg).1
  unfold turn
  dsimp only
  split
  · rw [filterMap_append,silent quiet.2,append_nil]
    exact ⟨quiet.1,rfl⟩
  · exact ⟨rfl,rfl⟩

lemma turn_response (cfg : QueueConfig) (m : Moment) (actor : QueueActor) (msg : QueueMsg) :
    Response cfg.policy actor.stand msg ((actor.turn cfg m msg).2.filterMap answer) (actor.turn cfg m msg).1.stand := by
  obtain ⟨stands,answers⟩ := turn_shows answer_background cfg m actor msg
  rw [stands,answers]
  cases actor with
  | transient q => exact TransientQueue.handle_response cfg.policy
  | durable q =>
    simp only [handle,sent_answer]
    exact q.handle_response cfg.policy cfg.storeId m.handling.read
  | quorum q => exact q.handleMsg_response cfg.policy m.handling

lemma resolve_response {next : QueueActor} (ok : actor.resolve cfg m place result = some (next,effects)) :
    ∃ reply : Option (Nat × Bool), effects.filterMap answer = reply.toList ∧ next.reserved = actor.reserved ∧
      (next.stand.callers ++ (reply.map Prod.fst).toList).Perm actor.stand.callers := by
  obtain ⟨⟨middle,sent⟩,done,rest⟩ := map_eq_some_iff.mp ok
  have quiet := dispatch_quiet cfg m middle
  change ((middle.dispatch cfg m).1,sent ++ (middle.dispatch cfg m).2) = (next,effects) at rest
  cases rest
  rw [← stand_slots,quiet.1,filterMap_append,answer_background quiet.2,append_nil,stand_slots]
  cases actor with
  | transient => cases done
  | durable q =>
    obtain ⟨pending,there,same⟩ := map_eq_some_iff.mp done
    obtain ⟨slots,left,answers⟩ := q.committed_response (mem_of_getElem? there)
    generalize q.committed pending result.isSome = committed at same slots left answers
    cases same
    refine ⟨(callerOf pending.ack).map (·,result.isSome),?_,slots,?_⟩
    · rw [sent_answer,answers,toList_map]
    · rw [Option.map_map,Function.comp_def,Option.map_id']
      exact left
  | quorum q =>
    obtain ⟨proposal,there,same⟩ := map_eq_some_iff.mp done
    obtain ⟨reply,given,slots,left⟩ := q.committed_response (mem_of_getElem? there)
    cases same
    exact ⟨reply,given,slots,left⟩

lemma turn_storedFor (other : msg.publisher ≠ some id) : (actor.turn cfg m msg).2.filterMap (storedFor id) = [] := by
  rw [(turn_shows (storedFor_background id) cfg m actor msg).2]
  cases actor with
  | transient q => exact q.handle_storedFor cfg.policy m.now other
  | durable q => exact q.handle_storedFor cfg.policy cfg.storeId m.handling.read m.now msg id
  | quorum q => exact q.handleMsg_storedFor cfg.policy m.handling m.now msg id

lemma turn_publishReserved :
    ((transient q).turn cfg m (.publishReserved body (some (Commit.ack id)))).2.filterMap (storedFor id) = [body] ∧
    ((transient q).turn cfg m (.publishReserved body (some (Commit.ack id)))).2.filterMap answer = [(id,true)] := by
  rw [(turn_shows (storedFor_background id) cfg m ..).2,(turn_shows answer_background cfg m ..).2]
  obtain ⟨stored,answers⟩ := q.publishReserved_stored cfg.policy m.now body (some (Commit.ack id)) id
  have mine : callerOf (some (Commit.ack id)) = some id := rfl
  rw [if_pos mine] at stored
  exact ⟨stored,answers⟩

lemma resolve_storedFor {next : QueueActor}
    (ok : actor.resolve cfg m place result = some (next,effects)) (other : id ∉ actor.stand.callers) :
    effects.filterMap (storedFor id) = [] := by
  obtain ⟨⟨middle,sent⟩,done,rest⟩ := map_eq_some_iff.mp ok
  have quiet := dispatch_quiet cfg m middle
  change ((middle.dispatch cfg m).1,sent ++ (middle.dispatch cfg m).2) = (next,effects) at rest
  cases rest
  rw [filterMap_append,storedFor_background id quiet.2,append_nil]
  cases actor with
  | transient => cases done
  | durable q =>
    obtain ⟨pending,_,same⟩ := map_eq_some_iff.mp done
    have silent := q.committed_storedFor pending result.isSome id
    cases same
    exact silent
  | quorum q =>
    obtain ⟨proposal,there,same⟩ := map_eq_some_iff.mp done
    have foreign : proposal.caller ≠ some id := fun mine =>
      other (mem_filterMap.mpr ⟨proposal,mem_of_getElem? there,mine⟩)
    have silent := q.committed_storedFor proposal result foreign
    cases same
    exact silent

lemma turn_kind : (actor.turn cfg m msg).1.kind = actor.kind := by
  cases actor <;> unfold turn handle <;> dsimp only <;> split <;> rfl

lemma resolve_kind {next : QueueActor} (ok : actor.resolve cfg m place result = some (next,effects)) :
    next.kind = actor.kind := by
  obtain ⟨⟨_,_⟩,done,rest⟩ := map_eq_some_iff.mp ok
  cases rest
  cases actor with
  | transient => cases done
  | durable =>
    obtain ⟨_,_,same⟩ := map_eq_some_iff.mp done
    cases same
    rfl
  | quorum =>
    obtain ⟨_,_,same⟩ := map_eq_some_iff.mp done
    cases same
    rfl

end QueueActor

end Ramqp
