import Ramqp.LinkMoves
import Ramqp.Semantics.AutoConsumer

/-! The account of a consumer in automatic credit mode: the link's credit, the deliveries in the channel, those consumed
since the last grant, and the grants on their way make up the credit window. -/
namespace Ramqp

open Std List Option LinkEvent Session Transition

def LinkEvent.isDelivery : LinkEvent → Bool
  | .delivery _ => true
  | _ => false

def SessionInput.transfer : SessionInput → Option Transfer
  | .frame _ _ ⟨_,.transfer t,_⟩ => some t
  | _ => none

namespace AutoConsumer

variable {c next : AutoConsumer} {maxFrameSize : Nat} {input : SessionInput}

variable {handle : UInt32}

variable {r : ReceiverLink} {channel : UInt16} {effects : List Effect} {session : Session} {policy : AttachPolicy}
  {order : IterOrder} {t : Transfer} {payload : Option Bytes}

def linkCredit (c : AutoConsumer) : Nat :=
  match c.link with
  | some r => r.credit.linkCredit.toNat
  | none => 0

def buffered (c : AutoConsumer) : Nat := c.buffer.countP LinkEvent.isDelivery

def promised (c : AutoConsumer) : Nat := ((c.sending.toList ++ c.grants).map UInt32.toNat).sum

/-- What may happen on the session: nobody else uses the consumer's channel, no grant or flow of a former holder of its
handle comes to its link, and the peer completes or aborts a delivery on it only while the link has credit. -/
def admits (c : AutoConsumer) : AutoStep → Bool
  | .input (.op (.grant handle _)) => c.link.isNone || handle != c.handle
  | .input (.op (.flow flow)) => c.link.isNone || flow.handle != some c.handle
  | .input (.frame _ _ ⟨_,.transfer t,payload⟩) => match c.link with
    | some r => c.session.remoteHandles t.handle != some c.handle || match r.receive t payload with
      | .ok (_,event,_) => !(event.isSome || t.aborted) || decide (0 < r.credit.linkCredit)
      | .error _ => true
    | none => true
  | .input input => input.channel != some c.events
  | _ => true

structure Live (c : AutoConsumer) (r : ReceiverLink) : Prop where
  mode : ∃ lowWater, r.credit.mode = .auto c.creditWindow lowWater
  plain : ∀ event ∈ c.buffer, event.isDelivery = true
  idle : r.remoteHandle = none → r.credit.linkCredit = 0 ∧ c.buffer = [] ∧ c.sending = none ∧ c.grants = [] ∧
    c.consumed = 0 ∧ c.aborted = 0 ∧ c.dropped = 0
  total : r.remoteHandle ≠ none →
    r.credit.linkCredit.toNat + c.buffer.length + c.promised + c.consumed.toNat + c.aborted + c.dropped =
      c.creditWindow.toNat

/-- The links that use the consumer's channel are its own. -/
def Owns (c : AutoConsumer) (session : Session) : Prop :=
  ∀ (handle : UInt32) (link : Link), session.links[handle]? = some link → link.events = c.events →
    handle = c.handle ∧ ∃ r, link = .receiver r

structure Balanced (c : AutoConsumer) : Prop where
  every : ∃ lowWater, c.replenishEvery = max (saturatingSub c.creditWindow lowWater) 1
  below : c.consumed < c.replenishEvery
  apart : c.Owns c.session
  live : ∀ r, c.link = some r → c.Live r
  gone : c.link = none → c.buffered + c.promised + c.consumed.toNat ≤ c.creditWindow.toNat ∧
    c.buffer.length ≤ c.buffered + 1

lemma link_eq_some : c.link = some r ↔ c.session.links[c.handle]? = some (.receiver r) ∧ r.events = c.events := by
  unfold link
  constructor
  · intro found
    split at found
    next present =>
      split at found
      next own =>
        cases found
        exact ⟨present,own⟩
      · cases found
    · cases found
  · rintro ⟨present,own⟩
    simp only [present,if_pos own]

lemma Live.buffered (live : c.Live r) : c.buffered = c.buffer.length := countP_eq_length.mpr live.plain

lemma Live.bound (live : c.Live r) :
    r.credit.linkCredit.toNat + c.buffer.length + c.promised + c.consumed.toNat ≤ c.creditWindow.toNat := by
  by_cases bound : r.remoteHandle = none
  · obtain ⟨credit,buffer,sending,grants,consumed,-⟩ := live.idle bound
    simp [credit,buffer,sending,grants,consumed,promised]
  · have := live.total bound
    omega

/-- What is received: the events before the first delivery or the end of the link are skipped. -/
inductive Reads (c : AutoConsumer) (skipped : List LinkEvent) :
    List LinkEvent → AutoConsumer × Option (Except Failure IncomingDelivery) → Prop
  | nothing : Reads c skipped skipped ({c with buffer := []},none)
  | delivery (d : IncomingDelivery) (rest : List LinkEvent) : Reads c skipped (skipped ++ .delivery d::rest)
      (({c with buffer := rest} : AutoConsumer).afterConsume,some (.ok d))
  | detached (handle : UInt32) (error : Option AmqpError) (rest : List LinkEvent) :
      Reads c skipped (skipped ++ .detached handle error::rest) ({c with buffer := rest},some (.error (detachedError error)))

lemma Reads.skip {skipped events : List LinkEvent} {out : AutoConsumer × Option (Except Failure IncomingDelivery)}
    (reads : c.Reads skipped events out) (event : LinkEvent) : c.Reads (event::skipped) (event::events) out := by
  cases reads <;> constructor

lemma recvFrom_reads (c : AutoConsumer) (events : List LinkEvent) :
    ∃ skipped, (∀ event ∈ skipped, event.isDelivery = false) ∧ c.Reads skipped events (c.recvFrom events) := by
  induction events with
  | nil => exact ⟨[],forall_mem_nil _,.nothing⟩
  | cons event rest ih =>
    obtain ⟨skipped,none_,reads⟩ := ih
    cases event with
    | delivery d => exact ⟨[],forall_mem_nil _,.delivery d rest⟩
    | detached handle error => exact ⟨[],forall_mem_nil _,.detached handle error rest⟩
    | disposition | credit => exact ⟨_::skipped,forall_mem_cons.mpr ⟨rfl,none_⟩,reads.skip _⟩

lemma afterConsume_spec (c : AutoConsumer) (free : c.sending = none) (window : c.creditWindow ≠ 0)
    (below : c.consumed < c.replenishEvery) : ∃ consumed sending, c.afterConsume = {c with consumed,sending} ∧
      consumed < c.replenishEvery ∧
      ((sending.toList ++ c.grants).map UInt32.toNat).sum + consumed.toNat = c.promised + c.consumed.toNat + 1 := by
  have counted : (c.consumed + 1).toNat = c.consumed.toNat + 1 := by
    rw [UInt32.lt_iff_toNat_lt] at below
    have := c.replenishEvery.toNat_lt
    rw [UInt32.toNat_add]
    exact Nat.mod_eq_of_lt (by simp only [UInt32.toNat_one]; omega)
  unfold afterConsume
  rw [if_neg window]
  dsimp only
  split
  · refine ⟨0,_,rfl,?_,?_⟩
    · rw [UInt32.lt_iff_toNat_lt] at below ⊢
      simp only [UInt32.toNat_zero]
      omega
    · simp only [toList_some,singleton_append,map_cons,sum_cons,counted,promised,free,toList_none,nil_append,
        UInt32.toNat_zero]
      omega
  next early =>
    exact ⟨_,_,rfl,UInt32.not_le.mp early,by rw [counted,promised]; omega⟩

lemma countP_skipped {skipped rest : List LinkEvent} {event : LinkEvent}
    (none_ : ∀ other ∈ skipped, other.isDelivery = false) : (skipped ++ event::rest).countP LinkEvent.isDelivery =
      (if event.isDelivery then 1 else 0) + rest.countP LinkEvent.isDelivery := by
  have zero : skipped.countP isDelivery = 0 := by
    rw [countP_eq_zero]
    intro other member
    simp [none_ other member]
  rw [countP_append,zero,countP_cons]
  omega

lemma recv_balanced (balanced : c.Balanced) (free : c.sending = none) : c.recv.1.Balanced := by
  obtain ⟨every,below,apart,live,gone⟩ := balanced
  unfold recv
  generalize buffer : c.buffer = events
  obtain ⟨skipped,none_,reads⟩ := c.recvFrom_reads events
  generalize c.recvFrom events = out at reads ⊢
  cases reads with
  | nothing =>
    have zero : c.buffered = 0 := by
      rw [buffered,buffer,countP_eq_zero]
      intro event member
      simp [none_ event member]
    refine ⟨every,below,apart,fun r there => ?_,fun absent => ?_⟩
    · have here := live r there
      have empty : c.buffer = [] := eq_nil_of_length_eq_zero (here.buffered ▸ zero)
      exact ⟨here.mode,forall_mem_nil _,fun unbound => ⟨(here.idle unbound).1,rfl,(here.idle unbound).2.2⟩,
        fun bound => by simpa [empty,promised] using here.total bound⟩
    have sums := gone absent
    refine ⟨?_,Nat.zero_le _⟩
    simp only [buffered,promised,countP_nil] at sums ⊢
    omega
  | delivery d rest =>
    have count : c.buffered = 1 + rest.countP isDelivery := by
      rw [buffered,buffer,countP_skipped none_]
      rfl
    have long : c.buffer.length = skipped.length + 1 + rest.length := by
      rw [buffer,length_append,length_cons]
      omega
    have within : c.buffered + c.promised + c.consumed.toNat ≤ c.creditWindow.toNat := by
      cases found : c.link with
      | none => exact (gone found).1
      | some r =>
        have := (live r found).bound
        have := (live r found).buffered
        omega
    have window : c.creditWindow ≠ 0 := by
      rintro zero
      simp only [zero,UInt32.toNat_zero] at within
      omega
    obtain ⟨consumed,sending,same,less,moved⟩ :=
      afterConsume_spec {c with buffer := rest} free window below
    rw [same]
    change ((sending.toList ++ c.grants).map UInt32.toNat).sum + consumed.toNat = c.promised + c.consumed.toNat + 1 at moved
    refine ⟨every,less,apart,fun r there => ?_,fun absent => ?_⟩
    · have here := live r there
      have counted := here.buffered
      have none_skipped : skipped.length = 0 := by
        have := countP_le_length (p := isDelivery) (l := rest)
        omega
      refine ⟨here.mode,fun event member => here.plain event ?_,fun unbound => ?_,fun bound => ?_⟩
      · rw [buffer]
        exact mem_append_right _ (mem_cons_of_mem _ member)
      · rw [(here.idle unbound).2.1] at long
        simp only [length_nil] at long
        omega
      have := here.total bound
      change r.credit.linkCredit.toNat + rest.length + ((sending.toList ++ c.grants).map UInt32.toNat).sum +
        consumed.toNat + c.aborted + c.dropped = c.creditWindow.toNat
      omega
    have sums := gone absent
    constructor
    · change rest.countP isDelivery + ((sending.toList ++ c.grants).map UInt32.toNat).sum + consumed.toNat ≤
        c.creditWindow.toNat
      omega
    · change rest.length ≤ rest.countP isDelivery + 1
      omega
  | detached handle error rest =>
    have count : c.buffered = rest.countP isDelivery := by
      rw [buffered,buffer,countP_skipped none_]
      simp [isDelivery]
    have long : c.buffer.length = skipped.length + 1 + rest.length := by
      rw [buffer,length_append,length_cons]
      omega
    refine ⟨every,below,apart,fun r there => ?_,fun absent => ?_⟩
    · have ended := (live r there).plain (.detached handle error) (by rw [buffer]; simp)
      cases ended
    have sums := gone absent
    constructor
    · change rest.countP isDelivery + c.promised + c.consumed.toNat ≤ c.creditWindow.toNat
      omega
    · change rest.length ≤ rest.countP isDelivery + 1
      omega

/-- A grant changes hands: from the call to the queue, or out of the account if the call is dropped. -/
lemma Balanced.move (balanced : c.Balanced) {grant : UInt32} (waiting : c.sending = some grant) {grants : List UInt32}
    {dropped : Nat} (kept : (grants.map UInt32.toNat).sum + dropped = c.promised + c.dropped)
    (more : c.dropped ≤ dropped) : ({c with sending := none,grants,dropped} : AutoConsumer).Balanced := by
  obtain ⟨every,below,apart,live,gone⟩ := balanced
  refine ⟨every,below,apart,fun r there => ?_,fun absent => ?_⟩
  · have here := live r there
    refine ⟨here.mode,here.plain,fun unbound => ?_,fun bound => ?_⟩
    · rw [(here.idle unbound).2.2.1] at waiting
      cases waiting
    have := here.total bound
    change r.credit.linkCredit.toNat + c.buffer.length + (grants.map UInt32.toNat).sum + c.consumed.toNat + c.aborted +
      dropped = c.creditWindow.toNat
    omega
  have := gone absent
  change c.buffered + (grants.map UInt32.toNat).sum + c.consumed.toNat ≤ c.creditWindow.toNat ∧
    c.buffer.length ≤ c.buffered + 1
  omega

lemma process_balanced (balanced : c.Balanced) {grant : UInt32} {rest : List UInt32} (waiting : c.grants = grant::rest) :
    ({c with session := (c.session.grantCredit c.handle grant).1,grants := rest} : AutoConsumer).Balanced := by
  obtain ⟨every,below,apart,live,gone⟩ := balanced
  have promise : c.promised = grant.toNat + ((c.sending.toList ++ rest).map UInt32.toNat).sum := by
    simp only [promised,waiting,map_append,map_cons,sum_append,sum_cons]
    omega
  have unlinked : c.link = none → c.buffered + ((c.sending.toList ++ rest).map UInt32.toNat).sum + c.consumed.toNat ≤
      c.creditWindow.toNat ∧ c.buffer.length ≤ c.buffered + 1 := by
    intro absent
    have := gone absent
    omega
  unfold grantCredit
  split
  next r present =>
    refine ⟨every,below,?_,?_,?_⟩
    · intro handle link there own
      simp only [Entries.getElem?_insert] at there
      split at there
      next same =>
        cases there
        exact ⟨same.symm,_,rfl⟩
      · exact apart handle link there own
    · intro after there
      obtain ⟨here,own⟩ := link_eq_some.mp there
      simp only [Entries.getElem?_insert,if_true,some.injEq,Link.receiver.injEq] at here
      subst here
      have before := live r (link_eq_some.mpr ⟨present,own⟩)
      have bound : r.remoteHandle ≠ none := by
        intro unbound
        rw [(before.idle unbound).2.2.2.1] at waiting
        cases waiting
      have total := before.total bound
      refine ⟨before.mode,before.plain,fun unbound => absurd unbound bound,fun _ => ?_⟩
      have size := c.creditWindow.toNat_lt
      have added : (saturatingAdd r.credit.linkCredit grant).toNat = r.credit.linkCredit.toNat + grant.toNat :=
        toNat_saturatingAdd (by omega)
      change (saturatingAdd r.credit.linkCredit grant).toNat + c.buffer.length +
        ((c.sending.toList ++ rest).map UInt32.toNat).sum + c.consumed.toNat + c.aborted + c.dropped = c.creditWindow.toNat
      omega
    intro absent
    refine unlinked ?_
    cases found : c.link with
    | none => rfl
    | some =>
      obtain ⟨here,own⟩ := link_eq_some.mp found
      cases present.symm.trans here
      simp [link,own] at absent
  next other =>
    refine ⟨every,below,apart,fun r there => ?_,unlinked⟩
    exact absurd (link_eq_some.mp there).1 (other r)

lemma eventsOn_eq_nil {channel : ChannelRef} (apart : ∀ entry ∈ offered effects, entry.1 ≠ channel) :
    eventsOn channel effects = [] := by
  rw [eventsOn,filterMap_eq_nil_iff]
  intro entry member
  rw [if_neg (apart entry member)]

/-- The link keeps its credit, or is bound by the peer's attach. -/
def Keeps (c : AutoConsumer) (session : Session) : Prop :=
  ∀ r, ({c with session} : AutoConsumer).link = some r → ∃ before, c.link = some before ∧
    ((r.credit = before.credit ∧ r.remoteHandle = before.remoteHandle) ∨
      (before.remoteHandle = none ∧ ∃ attach windows, r = before.boundTo attach windows))

lemma Balanced.quiet (balanced : c.Balanced) (apart : c.Owns session) (kept : c.Keeps session) :
    ({c with session} : AutoConsumer).Balanced := by
  refine ⟨balanced.every,balanced.below,apart,fun r there => ?_,fun absent => ?_⟩
  · obtain ⟨before,present,same | ⟨unbound,attach,windows,rfl⟩⟩ := kept r there
    · have here := balanced.live before present
      refine ⟨same.1 ▸ here.mode,here.plain,fun unbound => ?_,fun bound => ?_⟩
      · rw [same.1]
        exact here.idle (same.2 ▸ unbound)
      · rw [same.1]
        exact here.total (same.2 ▸ bound)
    have here := balanced.live before present
    obtain ⟨credit,buffer,sending,grants,consumed,aborted,dropped⟩ := here.idle unbound
    obtain ⟨lowWater,mode⟩ := here.mode
    have full : (before.boundTo attach windows).credit.linkCredit = c.creditWindow ∧
        (before.boundTo attach windows).credit.mode = before.credit.mode ∧
        (before.boundTo attach windows).remoteHandle = some attach.handle := by
      simp only [ReceiverLink.boundTo,bindReceiver,ReceiverLink.initialCredit,mode]
      split
      · exact ⟨rfl,rfl,rfl⟩
      rename_i none_
      have zero : c.creditWindow = 0 := by
        rw [UInt32.lt_iff_toNat_lt] at none_
        apply UInt32.toNat.inj
        simpa using none_
      exact ⟨credit.trans zero.symm,rfl,rfl⟩
    refine ⟨⟨lowWater,full.2.1.trans mode⟩,here.plain,fun unbound => ?_,fun _ => ?_⟩
    · rw [full.2.2] at unbound
      cases unbound
    · simp [full.1,buffer,sending,grants,consumed,aborted,dropped,promised]
  cases found : c.link with
  | none => exact balanced.gone found
  | some r =>
    have here := balanced.live r found
    have := here.bound
    have := here.buffered
    change c.buffered + c.promised + c.consumed.toNat ≤ c.creditWindow.toNat ∧ c.buffer.length ≤ c.buffered + 1
    omega

lemma Balanced.leave (balanced : c.Balanced) {aborted : Nat} {error : Option AmqpError} (present : c.link = some r)
    (apart : c.Owns session) (left : session.links[c.handle]? = none) :
    ({c with session,buffer := c.buffer ++ [.detached handle error],aborted} : AutoConsumer).Balanced := by
  refine ⟨balanced.every,balanced.below,apart,fun r there => ?_,fun _ => ?_⟩
  · have := (link_eq_some.mp there).1
    rw [left] at this
    cases this
  have here := balanced.live r present
  have := here.bound
  have same := here.buffered
  have more : ({c with session,buffer := c.buffer ++ [.detached handle error],aborted} : AutoConsumer).buffered =
      c.buffered := by
    simp [buffered,isDelivery]
  rw [more]
  change c.buffered + c.promised + c.consumed.toNat ≤ c.creditWindow.toNat ∧
    (c.buffer ++ [detached handle error]).length ≤ c.buffered + 1
  rw [length_append,length_singleton]
  omega

lemma admits_channel (admitted : c.admits (.input input) = true) : input.channel ≠ some c.events := by
  cases input with
  | op op =>
    cases op with
    | attach => simpa [admits] using admitted
    | grant | flow | send | settle | detach => exact nofun
  | frame policy order frame =>
    obtain ⟨_,performative,_⟩ := frame
    cases performative with
    | attach | open_ | begin_ | flow | disposition | detach | end_ | close => simpa [admits] using admitted
    | transfer =>
      cases policy <;> exact nofun

lemma apart_after (balanced : c.Balanced) (channel : input.channel ≠ some c.events)
    (reacted : c.session.react maxFrameSize input = .ok (session,effects)) : c.Owns session := by
  intro handle link there own
  rcases (react_moved reacted).origin handle link there with ⟨before,present,move⟩ | ⟨-,-,fresh⟩
  · obtain ⟨same,_,rfl⟩ := balanced.apart handle before present (move.events.symm.trans own)
    obtain ⟨after,rfl,-⟩ := move.of_receiver
    exact ⟨same,after,rfl⟩
  · rw [own] at fresh
    exact absurd fresh channel

lemma other_balanced (balanced : c.Balanced) (plain : input.transfer = none)
    (admitted : c.admits (.input input) = true)
    (reacted : c.session.react maxFrameSize input = .ok (session,effects)) :
    ({c with session,buffer := c.buffer ++ eventsOn c.events effects} : AutoConsumer).Balanced := by
  have apart := apart_after balanced (admits_channel admitted) reacted
  have kept : c.Keeps session := by
    intro r there
    obtain ⟨here,own⟩ := link_eq_some.mp there
    rcases (react_moved reacted).origin _ _ here with ⟨before,present,move⟩ | ⟨-,-,fresh⟩
    · obtain ⟨old,rfl,-,events⟩ := move.receiver
      have found : c.link = some old := link_eq_some.mpr ⟨present,events.symm.trans own⟩
      refine ⟨old,found,?_⟩
      rcases move.credit with same | ⟨unbound,attach,bound⟩ | ⟨credit,rfl⟩ | ⟨flow,rfl,named⟩ |
        ⟨policy,order,channel,t,payload,rfl⟩
      · exact .inl same
      · exact .inr ⟨unbound,attach,_,bound⟩
      · simp [admits,found] at admitted
      · simp [admits,found,named] at admitted
      · cases plain
    · exact absurd (fresh.trans (congrArg some own)) (admits_channel (c := c) admitted)
  have silent : eventsOn c.events effects = [] →
      ({c with session,buffer := c.buffer ++ eventsOn c.events effects} : AutoConsumer).Balanced := by
    intro none_
    rw [none_,append_nil]
    exact balanced.quiet apart kept
  cases react_offers reacted with
  | senders all =>
    refine silent (eventsOn_eq_nil fun entry member same => ?_)
    obtain ⟨-,handle,_,present,events⟩ := all entry member
    obtain ⟨-,_,absurd⟩ := balanced.apart handle _ present (events.trans same)
    cases absurd
  | taken policy order channel t payload frame =>
    subst frame
    cases plain
  | leaves handle link error present gone emitted =>
    by_cases own : link.events = c.events
    · obtain ⟨rfl,_,rfl⟩ := balanced.apart handle link present own
      have told : eventsOn c.events effects = [.detached c.handle error] := by
        simp [eventsOn,emitted,own]
      rw [told]
      exact balanced.leave (link_eq_some.mpr ⟨present,own⟩) apart gone
    refine silent (eventsOn_eq_nil ?_)
    rw [emitted]
    simpa using own

lemma aborts_iff : c.aborts (.frame policy order ⟨channel,.transfer t,payload⟩) = true ↔
      t.aborted = true ∧ c.session.remoteHandles t.handle = some c.handle ∧ ∃ r, c.link = some r := by
  simp only [aborts,Bool.and_eq_true,decide_eq_true_eq,isSome_iff_exists,and_assoc]

lemma aborts_foreign (routed : c.session.remoteHandles t.handle = some handle)
    (present : c.session.links[handle]? = some (.receiver r)) (foreign : r.events ≠ c.events) :
    c.aborts (.frame policy order ⟨channel,.transfer t,payload⟩) = false := by
  rw [Bool.eq_false_iff,Ne,aborts_iff]
  rintro ⟨-,here,old,found⟩
  cases routed.symm.trans here
  obtain ⟨there,events⟩ := link_eq_some.mp found
  cases present.symm.trans there
  exact foreign events

lemma taken_live (balanced : c.Balanced) {after : ReceiverLink} {event : Option LinkEvent}
    (admitted : c.admits (.input (.frame policy order ⟨channel,.transfer t,payload⟩)) = true)
    (found : c.link = some r) (routed : c.session.remoteHandles t.handle = some c.handle)
    (received : r.receive t payload = .ok (after,event,false)) :
    ({c with
        session,buffer := c.buffer ++ event.toList,
        aborted := c.aborted + if c.aborts (.frame policy order ⟨channel,.transfer t,payload⟩) then 1 else 0} :
      AutoConsumer).Live after := by
  have live := balanced.live r found
  have credit := r.receive_credit received
  have mode : after.credit.mode = r.credit.mode := by
    rw [credit]
    split <;> rfl
  have remote : after.remoteHandle = r.remoteHandle := congrArg LinkCard.remoteHandle (receive_card received)
  have counted : c.aborts (.frame policy order ⟨channel,.transfer t,payload⟩) = t.aborted := by
    rw [Bool.eq_iff_iff,aborts_iff]
    exact ⟨fun all => all.1,fun aborted => ⟨aborted,routed,r,found⟩⟩
  -- The peer keeps to its credit, so a delivery that ends takes a unit that is there.
  have some_left : (t.aborted = true ∨ event.isSome = true) → 0 < r.credit.linkCredit := by
    intro ends
    have : !(event.isSome || t.aborted) || decide (0 < r.credit.linkCredit) := by
      simpa [admits,found,routed,received] using admitted
    rcases ends with aborted | emitted
    · simpa [aborted] using this
    · simpa [emitted] using this
  refine ⟨mode ▸ live.mode,?_,fun unbound => ?_,fun bound => ?_⟩
  · intro other member
    rcases mem_append.mp member with before | arrived
    · exact live.plain other before
    · obtain ⟨_,rfl,-⟩ := (r.receive_cases received).2.2 other (mem_toList.mp arrived)
      rfl
  · have idle := live.idle (remote ▸ unbound)
    have still : ¬ (t.aborted = true ∨ event.isSome = true) := by
      intro ends
      have := some_left ends
      rw [idle.1] at this
      exact absurd this (by decide)
    rw [if_neg still] at credit
    obtain ⟨whole,none_⟩ := not_or.mp still
    cases event with
    | some => exact absurd rfl none_
    | none =>
      rw [counted,if_neg whole,credit]
      simpa using idle
  have total := live.total (remote ▸ bound)
  rw [counted,credit]
  change _ + (c.buffer ++ event.toList).length + c.promised + c.consumed.toNat + (c.aborted + _) + c.dropped =
    c.creditWindow.toNat
  rw [length_append]
  split
  next ends =>
    have spent : (saturatingSub r.credit.linkCredit 1).toNat + 1 = r.credit.linkCredit.toNat :=
      toNat_saturatingSub_one (some_left ends)
    change (saturatingSub r.credit.linkCredit 1).toNat + _ + _ + _ + _ + _ = _
    cases aborted : t.aborted with
    | true =>
      rw [(r.receive_aborted received aborted).1]
      simp only [toList_none,length_nil,if_true]
      omega
    | false =>
      have emitted : event.isSome = true := by simpa [aborted] using ends
      obtain ⟨e,rfl⟩ := isSome_iff_exists.mp emitted
      simp only [toList_some,length_singleton,Bool.false_eq_true,if_false]
      omega
  next still =>
    obtain ⟨whole,none_⟩ := not_or.mp still
    cases event with
    | some => exact absurd rfl none_
    | none =>
      rw [if_neg whole]
      simp only [toList_none,length_nil]
      omega

/-- The consumer once the session has taken an input. -/
def after (c : AutoConsumer) (input : SessionInput) (session : Session) (effects : List Effect) : AutoConsumer :=
  {c with
    session,buffer := c.buffer ++ eventsOn c.events effects,
    aborted := c.aborted + if c.aborts input then 1 else 0}

lemma transfer_balanced (balanced : c.Balanced)
    (admitted : c.admits (.input (.frame policy order ⟨channel,.transfer t,payload⟩)) = true)
    (reacted : c.session.react maxFrameSize (.frame policy order ⟨channel,.transfer t,payload⟩) = .ok (session,effects)) :
    (c.after (.frame policy order ⟨channel,.transfer t,payload⟩) session effects).Balanced := by
  have apart := apart_after balanced (admits_channel admitted) reacted
  have silent : eventsOn c.events effects = [] → c.aborts (.frame policy order ⟨channel,.transfer t,payload⟩) = false →
      (∀ r, ({c with session} : AutoConsumer).link = some r → c.link = some r) →
      (c.after (.frame policy order ⟨channel,.transfer t,payload⟩) session effects).Balanced := by
    intro none_ whole kept
    rw [after,none_,append_nil,whole]
    exact balanced.quiet apart fun r there => ⟨r,kept r there,.inl ⟨rfl,rfl⟩⟩
  cases onTransfer_transferred reacted with
  | ignored missed links none_ =>
    refine silent (by simp [eventsOn,none_]) ?_ fun r there => ?_
    · rw [Bool.eq_false_iff,Ne,aborts_iff]
      rintro ⟨-,routed,r,found⟩
      exact missed c.handle r routed (link_eq_some.mp found).1
    · obtain ⟨here,own⟩ := link_eq_some.mp there
      exact link_eq_some.mpr ⟨links ▸ here,own⟩
  | taken handle r after event routed present received links emitted =>
    dsimp only at links emitted
    have same : after.events = r.events := (r.receive_cases received).2.1
    by_cases own : r.events = c.events
    · obtain ⟨rfl,-⟩ := balanced.apart handle _ present own
      have found : c.link = some r := link_eq_some.mpr ⟨present,own⟩
      have told : eventsOn c.events effects = event.toList := by
        cases event <;> simp [eventsOn,emitted,own]
      rw [AutoConsumer.after,told]
      refine ⟨balanced.every,balanced.below,apart,fun next there => ?_,fun absent => ?_⟩
      · obtain ⟨here,-⟩ := link_eq_some.mp there
        simp only [links,Entries.getElem?_insert,if_true,some.injEq,Link.receiver.injEq] at here
        subst here
        exact taken_live balanced admitted found routed received
      · simp [link,links,same,own] at absent
    refine silent (eventsOn_eq_nil ?_) ?_ fun next there => ?_
    · rw [emitted]
      cases event <;> simp [own]
    · exact aborts_foreign routed present own
    obtain ⟨here,events⟩ := link_eq_some.mp there
    simp only [links,Entries.getElem?_insert] at here
    split at here
    · cases here
      exact absurd (same.symm.trans events) own
    · exact link_eq_some.mpr ⟨here,events⟩
  | refused handle r error routed present links emitted =>
    by_cases own : r.events = c.events
    · obtain ⟨rfl,-⟩ := balanced.apart handle _ present own
      have told : eventsOn c.events effects = [.detached c.handle error] := by
        simp [eventsOn,emitted,own]
      rw [after,told]
      exact balanced.leave (link_eq_some.mpr ⟨present,own⟩) apart (by rw [links,if_pos rfl])
    refine silent (eventsOn_eq_nil ?_) ?_ fun next there => ?_
    · rw [emitted]
      simpa using own
    · exact aborts_foreign routed present own
    obtain ⟨here,events⟩ := link_eq_some.mp there
    simp only [links] at here
    split at here
    · cases here
    · exact link_eq_some.mpr ⟨here,events⟩

lemma step_balanced (balanced : c.Balanced) {label : AutoStep} (admitted : c.admits label = true)
    (ok : c.step maxFrameSize label = some next) : next.Balanced := by
  cases label with
  | recv =>
    obtain ⟨free,same⟩ := Option.ite_none_left_eq_some.mp ok
    cases same
    exact recv_balanced balanced (by simpa using free)
  | send =>
    obtain ⟨grant,waiting,rfl⟩ := Option.map_eq_some_iff.mp ok
    refine balanced.move waiting ?_ le_rfl
    simp [promised,waiting,Nat.add_comm]
  | drop =>
    obtain ⟨grant,waiting,rfl⟩ := Option.map_eq_some_iff.mp ok
    refine balanced.move waiting ?_ (Nat.le_add_right ..)
    simp only [promised,waiting,toList_some,singleton_append,map_cons,sum_cons]
    omega
  | process =>
    simp only [step] at ok
    split at ok
    · cases ok
    rename_i waiting
    cases ok
    exact process_balanced balanced waiting
  | input input =>
    simp only [step] at ok
    split at ok
    · cases ok
    rename_i session effects reacted
    cases ok
    have plainly : input.transfer = none → c.aborts input = false → (c.after input session effects).Balanced := by
      intro plain whole
      rw [after,whole]
      exact other_balanced balanced plain admitted reacted
    cases input with
    | op => exact plainly rfl rfl
    | frame policy order frame =>
      obtain ⟨_,performative,_⟩ := frame
      cases performative with
      | transfer => exact transfer_balanced balanced admitted reacted
      | open_ | begin_ | attach | flow | disposition | detach | end_ | close => exact plainly rfl rfl

lemma toNat_max (a b : UInt32) : (max a b).toNat = max a.toNat b.toNat := by
  change (if a ≤ b then b else a).toNat = _
  split
  next less =>
    rw [UInt32.le_iff_toNat_le] at less
    omega
  rename_i more
  rw [UInt32.le_iff_toNat_le] at more
  omega

lemma create_balanced {s : Session} {attach : Attach} {window lowWater : UInt32} {events : ChannelRef}
    {reply : Reply} (unused : ∀ (handle : UInt32) (link : Link), s.links[handle]? = some link → link.events ≠ events)
    (made : create s attach window lowWater events reply = some c) : c.Balanced := by
  unfold create at made
  cases allocated : s.handles.allocate with
  | none => simp [allocated] at made
  | some entry =>
    obtain ⟨handle,_⟩ := entry
    simp only [allocated,some.injEq] at made
    subst made
    have links : (s.attachLink {attach with role := .receiver} (.auto window lowWater) events reply).1.links =
        s.links.insert handle (.receiver (.new handle attach.name events reply attach.rcvSettleMode
          (.auto window lowWater) attach.maxMessageSize)) := by
      simp [attachLink,allocated]
    refine ⟨⟨lowWater,rfl⟩,?_,?_,?_,fun absent => ?_⟩
    · rw [UInt32.lt_iff_toNat_lt,toNat_max]
      exact Nat.lt_of_lt_of_le Nat.one_pos (Nat.le_max_right _ _)
    · intro other link there own
      simp only [links,Entries.getElem?_insert] at there
      split at there
      next same =>
        cases there
        exact ⟨same.symm,_,rfl⟩
      · exact absurd own (unused other link there)
    · intro r there
      obtain ⟨here,-⟩ := link_eq_some.mp there
      simp only [links,Entries.getElem?_insert,if_true,some.injEq,Link.receiver.injEq] at here
      subst here
      exact ⟨⟨lowWater,rfl⟩,forall_mem_nil _,fun _ => ⟨rfl,rfl,rfl,rfl,rfl,rfl,rfl⟩,fun bound => absurd rfl bound⟩
    · simp [buffered,promised]

structure Fed (c : AutoConsumer) : Prop where
  bounded : c.linkCredit + c.buffered + c.consumed.toNat ≤ c.creditWindow.toNat
  roomy : c.buffer.length < c.capacity
  supplied : c.aborted = 0 → c.dropped = 0 → 1 ≤ c.creditWindow → c.buffer = [] → c.sending = none → c.grants = [] →
    ∀ r, c.link = some r → r.remoteHandle ≠ none → 1 ≤ r.credit.linkCredit

lemma Balanced.fed (balanced : c.Balanced) : c.Fed := by
  have within : c.linkCredit + c.buffered + c.consumed.toNat ≤ c.creditWindow.toNat ∧
      c.buffer.length ≤ c.creditWindow.toNat + 1 := by
    cases found : c.link with
    | none =>
      have := balanced.gone found
      have : c.linkCredit = 0 := by simp [linkCredit,found]
      omega
    | some r =>
      have live := balanced.live r found
      have := live.bound
      have := live.buffered
      have : c.linkCredit = r.credit.linkCredit.toNat := by simp [linkCredit,found]
      omega
  refine ⟨within.1,?_,fun whole kept window empty free none_ r found bound => ?_⟩
  · unfold capacity
    have := within.2
    omega
  have total := (balanced.live r found).total bound
  obtain ⟨lowWater,every⟩ := balanced.every
  have below := balanced.below
  -- A grant goes out at the latest when the whole window is consumed.
  have most : c.replenishEvery.toNat ≤ c.creditWindow.toNat := by
    rw [every,toNat_max]
    refine Nat.max_le.mpr ⟨?_,UInt32.le_iff_toNat_le.mp window⟩
    unfold saturatingSub
    split
    next less =>
      rw [UInt32.toNat_sub_of_le _ _ less]
      omega
    · exact Nat.zero_le _
  rw [UInt32.lt_iff_toNat_lt] at below
  rw [UInt32.le_iff_toNat_le]
  simp only [whole,kept,empty,free,none_,promised,toList_none,append_nil,length_nil,map_nil,sum_nil] at total
  simp only [UInt32.toNat_one]
  omega

/-- A consumer in automatic mode whose peer keeps to its credit, on a handle that no earlier consumer still grants credit
for: credit, channel and consumed deliveries stay within the window, the channel has room, and a consumer with a window
that is waiting with nothing under way has credit unless a delivery was aborted or a call dropped with its grant. -/
theorem auto_credit_balanced {s : Session} {attach : Attach} {window lowWater : UInt32} {events : ChannelRef}
    {reply : Reply}
    (unused : ∀ (handle : UInt32) (link : Link), s.links[handle]? = some link → link.events ≠ events)
    (made : create s attach window lowWater events reply = some c) (maxFrameSize : Nat) (labels : List AutoStep)
    (admitted : Transition.Meets (step maxFrameSize) (fun c label => c.admits label = true) c labels)
    (ok : run (step maxFrameSize) c labels = some next) : next.Fed :=
  (run_invariant (fun balanced => step_balanced balanced) (create_balanced unused made) admitted ok).fed

def freshSession : Session := (Session.new 0 1 ⟨none,0,100,100,8⟩ 0 0).onPeerBegin 2 ⟨some 1,0,100,100,8⟩ |>.1

def bound : AutoStep :=
  .input (.frame .respond .byKey ⟨2,.attach {name := "orders",handle := 7,role := .sender,initialDeliveryCount := some 0},
    none⟩)

def delivered (id : UInt32) : AutoStep :=
  .input (.frame .respond .byKey ⟨2,.transfer {handle := 7,deliveryId := some id},some [1]⟩)

def windowOfTwo : List AutoStep := [bound,delivered 0,delivered 1,.recv,.send,.process,.recv,.send]

def created (session : Session) (window lowWater : UInt32) (events : ChannelRef) : Option AutoConsumer :=
  create session {name := "orders",handle := 0,role := .receiver} window lowWater events events

theorem auto_credit_balanced_two : ∃ c next, created freshSession 2 1 5 = some c ∧
    run (step 512) c windowOfTwo = some next ∧ (next.linkCredit = 1 ∧ next.grants = [1]) ∧ next.Fed := by
  have reached : (created freshSession 2 1 5).any (fun c => check (step 512) admits c windowOfTwo &&
      (run (step 512) c windowOfTwo).any fun next => decide (next.linkCredit = 1 ∧ next.grants = [1])) = true := by
    decide +kernel
  obtain ⟨c,made,holds⟩ := (Option.any_eq_true ..).mp reached
  obtain ⟨checked,ran⟩ := Bool.and_eq_true_iff.mp holds
  obtain ⟨next,ok,state⟩ := (Option.any_eq_true ..).mp ran
  have unused : ∀ (handle : UInt32) (link : Link), freshSession.links[handle]? = some link → link.events ≠ 5 := by
    intro handle link there
    simp [freshSession,new,onPeerBegin] at there
  exact ⟨c,next,made,ok,of_decide_eq_true state,
    auto_credit_balanced unused made 512 windowOfTwo (meets_of_check checked) ok⟩

def reached (session : Session) (window lowWater : UInt32) (events : ChannelRef) (labels : List AutoStep) :
    Option AutoConsumer := (created session window lowWater events).bind (run (step 512) · labels)

/-- The peer ends the link of a consumer that has not yet taken its three deliveries. -/
def consumedLate : List AutoStep := [bound,delivered 0,delivered 1,delivered 2,
  .input (.frame .respond .byKey ⟨2,.detach ⟨7,true,none⟩,none⟩),.recv,.recv,.recv,.send]

/-- Nothing is under way, nothing was aborted, and the attached link has no credit. -/
def Starved (c : AutoConsumer) : Prop := c.buffer = [] ∧ c.sending = none ∧ c.grants = [] ∧ c.aborted = 0 ∧
  c.linkCredit = 0 ∧ c.link.any (·.remoteHandle = some 7) = true

instance (c : AutoConsumer) : Decidable c.Starved := inferInstanceAs (Decidable (_ ∧ _))

/-- The grant of a consumer whose link is gone goes to the next consumer on the handle, which then has a credit of 5 with
a window of 2. A consumer with a window of zero, or one whose call was dropped with its grant, waits without credit. -/
theorem reused_handle_overgranted :
    (∃ former, reached freshSession 3 0 5 consumedLate = some former ∧ former.grants = [3] ∧ former.link = none ∧
      ∃ next, reached former.session 2 1 6 [bound,.input (.op (.grant former.handle 3))] = some next ∧
        next.handle = former.handle ∧ next.creditWindow = 2 ∧ next.linkCredit = 5) ∧
    (∃ next, reached freshSession 0 0 5 [bound] = some next ∧ next.Starved) ∧
    ∃ next, reached freshSession 1 0 5 [bound,delivered 0,.recv,.drop] = some next ∧ next.Starved := by
  refine ⟨?_,reaches_of_any (by decide +kernel),reaches_of_any (by decide +kernel)⟩
  have granted : (reached freshSession 3 0 5 consumedLate).any (fun former =>
      decide (former.grants = [3] ∧ former.link.isNone) &&
        (reached former.session 2 1 6 [bound,.input (.op (.grant former.handle 3))]).any fun next =>
          decide (next.handle = former.handle ∧ next.creditWindow = 2 ∧ next.linkCredit = 5)) = true := by
    decide +kernel
  obtain ⟨former,made,holds⟩ := (Option.any_eq_true ..).mp granted
  obtain ⟨state,ran⟩ := Bool.and_eq_true_iff.mp holds
  obtain ⟨grants,gone⟩ := of_decide_eq_true state
  exact ⟨former,made,grants,isNone_iff_eq_none.mp gone,reaches_of_any ran⟩

end AutoConsumer

end Ramqp
