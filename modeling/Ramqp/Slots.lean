import Ramqp.Requests
import Mathlib.Algebra.BigOperators.Group.Finset.Piecewise
import Mathlib.Algebra.Order.BigOperators.Group.Finset

/-! Reserved slots are anonymous counters. A commit groups its publishes by the bare name of their queue,
so its slots are its own as long as no two of its queues share a name. -/
namespace Ramqp

open List Function Transition Commit QueueActor

variable (queue : QueueHandle)

def booked (groups : List (QueueHandle × Nat)) : Nat :=
  (groups.map fun group => if group.1 = queue then group.2 else 0).sum

@[simp] lemma booked_nil : booked queue [] = 0 := rfl

@[simp] lemma booked_cons (group : QueueHandle × Nat) (groups : List (QueueHandle × Nat)) :
    booked queue (group::groups) = (if group.1 = queue then group.2 else 0) + booked queue groups := by
  rw [booked,map_cons,sum_cons]
  rfl

@[simp] lemma booked_append (first second : List (QueueHandle × Nat)) :
    booked queue (first ++ second) = booked queue first + booked queue second := by
  rw [booked,map_append,sum_append]
  rfl

lemma booked_filter (groups : List (QueueHandle × Nat)) :
    booked queue (groups.filter fun group => 0 < group.2) = booked queue groups := by
  induction groups with
  | nil => rfl
  | cons group groups ih =>
    by_cases empty : group.2 = 0
    · simp [empty,ih]
    · rw [filter_cons_of_pos (by simpa using Nat.pos_of_ne_zero empty),booked_cons,booked_cons,ih]

namespace Txn

def Apart (publishes : List StagedPublish) : Prop :=
  ∀ first ∈ publishes, ∀ second ∈ publishes, first.queue.name = second.queue.name → first.queue = second.queue

structure Grouped (publishes : List StagedPublish) (groups : List (QueueHandle × Nat)) (todo : List StagedPublish) :
    Prop where
  counts : ∀ queue, booked queue groups = (todo.filter (fun publish => publish.queue = queue)).length
  names : (groups.map fun group => group.1.name).Nodup
  known : ∀ group ∈ groups, ∃ publish ∈ publishes, publish.queue = group.1
  todo : ∀ publish ∈ todo, publish ∈ publishes

variable {publish : StagedPublish}

section

variable {groups : List (QueueHandle × Nat)}

lemma Grouped.same {publishes todo : List StagedPublish}
    (grouped : Grouped publishes groups todo) (apart : Apart publishes) (here : publish ∈ publishes) :
    ∀ group ∈ groups, group.1.name = publish.queue.name → group.1 = publish.queue := by
  intro group member named
  obtain ⟨other,listed,equal⟩ := grouped.known group member
  rw [← equal] at named ⊢
  exact apart other listed publish here named

lemma joinGroup_booked
    (same : ∀ group ∈ groups, group.1.name = publish.queue.name → group.1 = publish.queue) (queue : QueueHandle) :
    booked queue (joinGroup publish groups) = booked queue groups + if publish.queue = queue then 1 else 0 := by
  induction groups with
  | nil => simp [joinGroup]
  | cons group groups ih =>
    obtain ⟨other,n⟩ := group
    unfold joinGroup
    split
    next named =>
      obtain rfl := same (other,n) mem_cons_self named
      simp only [booked_cons]
      split <;> omega
    have later := ih fun group member => same group (mem_cons_of_mem _ member)
    simp only [booked_cons,later]
    omega

lemma joinGroup_mem {group : QueueHandle × Nat} (member : group ∈ joinGroup publish groups) :
    group.1 = publish.queue ∨ ∃ old ∈ groups, old.1 = group.1 := by
  induction groups with
  | nil =>
    rw [mem_singleton.mp member]
    exact .inl rfl
  | cons first groups ih =>
    obtain ⟨other,n⟩ := first
    unfold joinGroup at member
    split at member
    · rcases mem_cons.mp member with rfl|later
      · exact .inr ⟨(other,n),mem_cons_self,rfl⟩
      · exact .inr ⟨group,mem_cons_of_mem _ later,rfl⟩
    rcases mem_cons.mp member with rfl|later
    · exact .inr ⟨(other,n),mem_cons_self,rfl⟩
    rcases ih later with new|⟨old,there,same⟩
    · exact .inl new
    · exact .inr ⟨old,mem_cons_of_mem _ there,same⟩

lemma joinGroup_names (names : (groups.map fun group => group.1.name).Nodup) :
    ((joinGroup publish groups).map fun group => group.1.name).Nodup := by
  induction groups with
  | nil => exact nodup_singleton _
  | cons first groups ih =>
    obtain ⟨_,_⟩ := first
    obtain ⟨fresh,rest⟩ := nodup_cons.mp names
    unfold joinGroup
    split
    · exact names
    rename_i different
    refine nodup_cons.mpr ⟨?_,ih rest⟩
    intro member
    obtain ⟨_,there,same⟩ := mem_map.mp member
    rcases joinGroup_mem there with new|⟨old,listed,equal⟩
    · rw [new] at same
      exact different same.symm
    · exact fresh (mem_map.mpr ⟨old,listed,by rw [equal]; exact same⟩)

lemma foldl_grouped {publishes : List StagedPublish} (apart : Apart publishes) (rest : List StagedPublish)
    {seen : List StagedPublish} (grouped : Grouped publishes groups seen)
    (within : ∀ publish ∈ rest, publish ∈ publishes) :
    Grouped publishes (rest.foldl (fun groups publish => joinGroup publish groups) groups) (seen ++ rest) := by
  induction rest generalizing seen groups with
  | nil => rwa [append_nil]
  | cons publish rest ih =>
    have here := within publish mem_cons_self
    have same := grouped.same apart here
    have one : Grouped publishes (joinGroup publish groups) (seen ++ [publish]) := by
      refine ⟨fun queue => ?_,joinGroup_names grouped.names,?_,?_⟩
      · rw [joinGroup_booked same,grouped.counts,filter_append,length_append]
        by_cases mine : publish.queue = queue <;> simp [mine]
      · intro group member
        rcases joinGroup_mem member with new|⟨old,listed,equal⟩
        · exact ⟨publish,here,new.symm⟩
        · rw [← equal]
          exact grouped.known old listed
      intro other member
      rcases mem_append.mp member with old|new
      · exact grouped.todo other old
      · rw [mem_singleton.mp new]
        exact here
    have later := ih one fun other member => within other (mem_cons_of_mem _ member)
    rwa [append_assoc] at later

end

lemma groups_grouped {publishes : List StagedPublish} (apart : Apart publishes) :
    Grouped publishes (groups publishes) publishes := by
  have nothing : Grouped publishes [] [] := ⟨fun _ => rfl,nodup_nil,fun _ member => absurd member not_mem_nil,
      fun _ member => absurd member not_mem_nil⟩
  exact foldl_grouped apart publishes nothing fun _ => id

section

variable {groups : List (QueueHandle × Nat)}

lemma booked_other {queue : QueueHandle}
    (absent : queue.name ∉ groups.map fun group => group.1.name) : booked queue groups = 0 := by
  induction groups with
  | nil => rfl
  | cons group groups ih =>
    rw [map_cons,mem_cons,not_or] at absent
    rw [booked_cons,ih absent.2,if_neg (fun same => absent.1 (by rw [same]))]

lemma leaveGroup_booked {target : QueueHandle}
    (same : ∀ group ∈ groups, group.1.name = target.name → group.1 = target)
    (names : (groups.map fun group => group.1.name).Nodup) (some : 0 < booked target groups) (queue : QueueHandle) :
    booked queue (leaveGroup target.name groups) + (if target = queue then 1 else 0) = booked queue groups := by
  induction groups with
  | nil => cases some
  | cons group groups ih =>
    obtain ⟨other,n⟩ := group
    obtain ⟨fresh,rest⟩ := nodup_cons.mp names
    unfold leaveGroup
    split
    next named =>
      obtain rfl := same (other,n) mem_cons_self named
      rw [booked_cons,if_pos rfl,booked_other fresh] at some
      simp only [booked_cons]
      split <;> omega
    rename_i different
    have apart : other ≠ target := fun equal => different (by rw [equal])
    rw [booked_cons,if_neg apart,Nat.zero_add] at some
    have later := ih (fun group member => same group (mem_cons_of_mem _ member)) rest some
    simp only [booked_cons]
    omega

lemma Grouped.leave {publishes : List StagedPublish}
    {todo : List StagedPublish} (apart : Apart publishes) (grouped : Grouped publishes groups (publish::todo)) :
    (∀ queue, booked queue (leaveGroup publish.queue.name groups) + (if publish.queue = queue then 1 else 0) =
      booked queue groups) ∧ Grouped publishes (leaveGroup publish.queue.name groups) todo := by
  have here := grouped.todo publish mem_cons_self
  have same := grouped.same apart here
  have some : 0 < booked publish.queue groups := by
    rw [grouped.counts,filter_cons_of_pos (by simp)]
    exact Nat.succ_pos _
  have left := leaveGroup_booked same grouped.names some
  refine ⟨left,fun queue => ?_,?_,?_,fun other member => grouped.todo other (mem_cons_of_mem _ member)⟩
  · have total := left queue
    rw [grouped.counts] at total
    by_cases mine : publish.queue = queue
    · rw [if_pos mine,filter_cons_of_pos (by simpa using mine),length_cons] at total
      omega
    · rwa [if_neg mine,filter_cons_of_neg (by simpa using mine)] at total
  · have queues := congrArg (map QueueHandle.name) (leaveGroup_queues publish.queue.name groups)
    rw [map_map,map_map] at queues
    change (map (QueueHandle.name ∘ Prod.fst) _).Nodup
    rw [queues]
    exact grouped.names
  intro group member
  have listed : group.1 ∈ groups.map Prod.fst := by
    rw [← leaveGroup_queues publish.queue.name groups]
    exact mem_map_of_mem member
  obtain ⟨old,there,equal⟩ := mem_map.mp listed
  rw [← equal]
  exact grouped.known old there

end

end Txn

variable (queue : QueueHandle)

def slotsSent (sends : List Send) : Nat :=
  (sends.map fun send => if send.1 = queue then send.2.slots else 0).sum

def slotsPosted (id : Nat) (mailbox : List Letter) : Nat :=
  (mailbox.map fun letter => if letter.sender = some id then letter.msg.slots else 0).sum

lemma slotsPosted_append (id : Nat) (first second : List Letter) :
    slotsPosted id (first ++ second) = slotsPosted id first + slotsPosted id second := by
  rw [slotsPosted,map_append,sum_append]
  rfl

lemma slotsPosted_cons (id : Nat) (letter : Letter) (rest : List Letter) :
    slotsPosted id (letter::rest) = (if letter.sender = some id then letter.msg.slots else 0) + slotsPosted id rest := by
  rw [slotsPosted,map_cons,sum_cons]
  rfl

lemma slotsSent_cons (send : Send) (sends : List Send) :
    slotsSent queue (send::sends) = (if send.1 = queue then send.2.slots else 0) + slotsSent queue sends := by
  rw [slotsSent,map_cons,sum_cons]
  rfl

lemma slotsSent_settles (settles : List StagedSettle)
    (outcome : StagedSettle → SettleOutcome) :
    slotsSent queue (settles.map fun settle => (settle.queue,.settle settle.sub settle.msgId (outcome settle))) = 0 := by
  induction settles with
  | nil => rfl
  | cons settle settles ih =>
    rw [map_cons,slotsSent_cons,ih]
    exact ite_self 0

lemma slotsSent_unreserve (groups : List (QueueHandle × Nat)) :
    slotsSent queue (unreserveSends groups) = booked queue groups := by
  simp only [slotsSent,unreserveSends,booked,map_map]
  rfl

namespace Commit

def books (queue : QueueHandle) (k : Commit) : Nat :=
  match k.phase with
  | .reserve held _ => booked queue held
  | .reserving held group _ => booked queue held + if k.answer = some true then booked queue [group] else 0
  | .publish _ remaining _ => booked queue remaining
  | .publishing _ remaining _ _ => booked queue remaining
  | .sending sends _ => slotsSent queue sends
  | .returned _ => 0

def Covers (k : Commit) : Prop :=
  Txn.Apart k.txn.publishes ∧ match k.phase with
  | .reserve held todo => held ++ todo = Txn.groups k.txn.publishes
  | .reserving held group todo => held ++ group::todo = Txn.groups k.txn.publishes
  | .publish _ remaining todo => Txn.Grouped k.txn.publishes remaining todo
  | .publishing _ remaining _ todo => Txn.Grouped k.txn.publishes remaining todo
  | _ => True

lemma rollBack_books (queue : QueueHandle) (held : List (QueueHandle × Nat)) (outcome : DischargeOutcome)
    (k : Commit) : (k.rollBack held outcome).books queue = booked queue held := by
  change slotsSent queue (unreserveSends held ++ k.txn.requeueSends) = booked queue held
  rw [slotsSent,map_append,sum_append]
  change slotsSent queue (unreserveSends held) + slotsSent queue k.txn.requeueSends = _
  rw [slotsSent_unreserve,Txn.requeueSends,slotsSent_settles queue k.txn.settles (fun _ => .requeue),Nat.add_zero]

lemma Moves.covers {id : Nat} {k next : Commit} {sends : List Send} (moved : k.Moves id next sends)
    (covers : k.Covers) : next.Covers := by
  obtain ⟨apart,fits⟩ := covers
  cases moved with
  | granted held there =>
    rw [there] at fits
    obtain rfl : held = Txn.groups k.txn.publishes := (append_nil held).symm.trans fits
    exact ⟨apart,Txn.groups_grouped apart⟩
  | reserve held group todo there | confirmed applied remaining publish todo there =>
    rw [there] at fits
    exact ⟨apart,fits⟩
  | hold held group todo there =>
    rw [there] at fits
    refine ⟨apart,?_⟩
    change held ++ [group] ++ todo = _
    rw [append_assoc]
    exact fits
  | publish applied remaining publish todo there =>
    rw [there] at fits
    exact ⟨apart,(fits.leave apart).2⟩
  | _ => exact ⟨apart,trivial⟩

lemma Moves.books {id : Nat} {k next : Commit} {sends : List Send} (moved : k.Moves id next sends)
    (covers : k.Covers) (idle : k.request id = none → k.answer = none) (queue : QueueHandle) :
    next.books queue + slotsSent queue sends = k.books queue := by
  obtain ⟨apart,fits⟩ := covers
  cases moved with
  | granted held there | confirmed applied remaining publish todo there | done outcome there =>
    unfold Commit.books
    rw [there]
    rfl
  | reserve held group todo there =>
    have unanswered : k.answer = none := idle (by rw [request,there])
    unfold Commit.books
    rw [there]
    simp [unanswered,slotsSent,QueueMsg.slots]
  | hold held group todo there heard =>
    unfold Commit.books
    rw [there]
    simp [heard,slotsSent]
  | denied held group todo there heard =>
    rw [rollBack_books]
    unfold Commit.books
    rw [there]
    simp [heard,slotsSent]
  | landed applied remaining there =>
    have none : booked queue remaining = 0 := by
      rw [there] at fits
      exact fits.counts queue
    unfold Commit.books
    rw [there]
    simp only [none]
    rw [Txn.settleSends,slotsSent_settles queue k.txn.settles StagedSettle.outcome]
    rfl
  | publish applied remaining publish todo there =>
    rw [there] at fits
    unfold Commit.books
    rw [there]
    simpa [slotsSent,QueueMsg.slots] using (fits.leave apart).1 queue
  | refused applied remaining publish todo there =>
    rw [rollBack_books,booked_filter]
    unfold Commit.books
    rw [there]
    rfl
  | send send sends outcome there =>
    unfold Commit.books
    rw [there]
    simp only [slotsSent_cons]
    exact Nat.add_comm _ _

end Commit

namespace Exchange

variable {cfg : QueueHandle → QueueConfig} {s next : Exchange}

def share (p : EffectivePolicy) (queue : QueueHandle) (id : Nat) (k : Commit) (mailbox : List Letter) : Int :=
  if p.dropHead then 0 else k.books queue + slotsPosted id mailbox

structure Booked (cfg : QueueHandle → QueueConfig) (s : Exchange) : Prop where
  tracked : s.Tracked
  outside : ∀ queue, ∀ letter ∈ s.mailboxes queue, letter.sender = none → letter.msg.fromOutside = true
  known : ∀ queue, ∀ letter ∈ s.mailboxes queue, ∀ id, letter.sender = some id → id < s.commits.length
  covers : ∀ (id : Nat) (k : Commit), s.commits[id]? = some k → k.Covers
  account : ∀ id k, s.commits[id]? = some k → ∀ queue,
    s.held id queue = share (cfg queue).policy queue id k (s.mailboxes queue)
  absent : ∀ id queue, s.commits.length ≤ id → s.held id queue = 0
  counted : ∀ queue, ((s.actors queue).reserved : Int) = ∑ id ∈ Finset.range s.commits.length, s.held id queue

lemma share_nonneg (p : EffectivePolicy) (queue : QueueHandle) (id : Nat) (k : Commit)
    (mailbox : List Letter) : 0 ≤ share p queue id k mailbox := by
  unfold share
  split
  · exact le_rfl
  · omega

lemma Booked.nonneg (booked : s.Booked cfg) (id : Nat) (queue : QueueHandle) : 0 ≤ s.held id queue := by
  rcases lt_or_ge id s.commits.length with present|beyond
  · rw [booked.account id _ (getElem?_eq_getElem present) queue]
    exact share_nonneg _ _ _ _ _
  · rw [booked.absent id queue beyond]

lemma Booked.share_le (booked : s.Booked cfg) {id : Nat} {k : Commit} (present : s.commits[id]? = some k)
    (queue : QueueHandle) : share (cfg queue).policy queue id k (s.mailboxes queue) ≤ (s.actors queue).reserved := by
  rw [← booked.account id k present,booked.counted]
  have bound := (List.getElem?_eq_some_iff.mp present).1
  exact Finset.single_le_sum (f := fun id => s.held id queue) (fun other _ => booked.nonneg other queue)
    (Finset.mem_range.mpr bound)

variable {queue : QueueHandle}

lemma Booked.dropHead (booked : s.Booked cfg)
    (policy : (cfg queue).policy.dropHead = true) : (s.actors queue).reserved = 0 := by
  have zero : ∀ id ∈ Finset.range s.commits.length, s.held id queue = 0 := by
    intro id member
    have present := getElem?_eq_getElem (Finset.mem_range.mp member)
    rw [booked.account id _ present,share,if_pos policy]
  have total := booked.counted queue
  rw [Finset.sum_eq_zero zero] at total
  exact Int.ofNat_eq_zero.mp total

lemma slotsPosted_send (s : Exchange) (sender : Option Nat) (send : Send) (id : Nat) (queue : QueueHandle) :
    slotsPosted id ((s.send sender send).mailboxes queue) = slotsPosted id (s.mailboxes queue) +
      if sender = some id then slotsSent queue [send] else 0 := by
  unfold Exchange.send
  by_cases here : queue = send.1
  · subst here
    simp only [update_self,slotsPosted_append]
    simp [slotsPosted,slotsSent]
  · simp [update_of_ne here,slotsSent,Ne.symm here]

lemma slotsPosted_sends (s : Exchange) (sender : Option Nat) (sends : List Send) (id : Nat) (queue : QueueHandle) :
    slotsPosted id ((sends.foldl (send sender) s).mailboxes queue) = slotsPosted id (s.mailboxes queue) +
      if sender = some id then slotsSent queue sends else 0 := by
  induction sends generalizing s with
  | nil =>
    rw [show slotsSent queue [] = 0 from rfl,ite_self]
    rfl
  | cons send sends ih =>
    rw [foldl_cons,ih,slotsPosted_send,slotsSent_cons,slotsSent_cons]
    split
    · rw [show slotsSent queue [] = 0 from rfl]
      omega
    · rfl

lemma sends_member {s : Exchange} {sender : Option Nat} {sends : List Send} {queue : QueueHandle}
    {letter : Letter} (member : letter ∈ (sends.foldl (send sender) s).mailboxes queue) :
    letter ∈ s.mailboxes queue ∨ letter.sender = sender ∧ (queue,letter.msg) ∈ sends := by
  induction sends generalizing s with
  | nil => exact .inl member
  | cons send sends ih =>
    rcases ih member with before|⟨sent,later⟩
    · unfold Exchange.send at before
      by_cases here : queue = send.1
      · subst here
        simp only [update_self,mem_append,mem_singleton] at before
        rcases before with old|rfl
        · exact .inl old
        · exact .inr ⟨rfl,mem_cons_self⟩
      · simp only [update_of_ne here] at before
        exact .inl before
    · exact .inr ⟨sent,mem_cons_of_mem send later⟩

lemma booked_advance {id : Nat} {k moved : Commit} {sends : List Send} (booked : s.Booked cfg)
    (present : s.commits[id]? = some k) (moves : k.Moves id moved sends)
    (tracked : (sends.foldl (send (some id)) {s with commits := s.commits.set id moved}).Tracked) :
    (sends.foldl (Exchange.send (some id)) {s with commits := s.commits.set id moved}).Booked cfg := by
  have bound := (List.getElem?_eq_some_iff.mp present).1
  obtain ⟨actors,commits,-,held⟩ := sends_same (some id) sends {s with commits := s.commits.set id moved}
  have length : (s.commits.set id moved).length = s.commits.length := length_set
  have covers := booked.covers id k present
  refine ⟨tracked,?_,?_,?_,?_,?_,?_⟩
  · intro queue letter member unsent
    rcases sends_member member with old|⟨sent,-⟩
    · exact booked.outside queue letter old unsent
    · cases unsent.symm.trans sent
  · intro queue letter member other sent
    rw [commits,length]
    rcases sends_member member with old|⟨mine,-⟩
    · exact booked.known queue letter old other sent
    · cases mine.symm.trans sent
      exact bound
  · intro other after there
    rw [commits] at there
    rcases whose bound there with ⟨-,rfl⟩|⟨-,old⟩
    · exact moves.covers covers
    · exact booked.covers other after old
  · intro other after there queue
    rw [commits] at there
    rw [held,share,slotsPosted_sends]
    rcases whose bound there with ⟨rfl,rfl⟩|⟨apart,old⟩
    · rw [booked.account other k present queue,share,if_pos rfl]
      have same := moves.books covers (booked.tracked.idle present) queue
      dsimp only
      split
      · rfl
      · omega
    · rw [booked.account other after old queue,share,if_neg (fun same => apart (Option.some.inj same).symm)]
      rfl
  · intro other queue beyond
    rw [commits,length] at beyond
    rw [held]
    exact booked.absent other queue beyond
  · intro queue
    rw [actors,held,commits,length]
    exact booked.counted queue

lemma books_answer {k : Commit} {id : Nat} {msg : QueueMsg}
    (asked : k.request id = some (queue,msg)) (silent : k.answer = none) (ok : Bool) (other : QueueHandle) :
    {k with answer := some ok}.books other =
      k.books other + if queue = other then msg.granted [(id,ok)] else 0 := by
  unfold request at asked
  split at asked
  next there =>
    obtain ⟨rfl,rfl⟩ := Prod.mk.inj (Option.some.inj asked)
    unfold books
    dsimp only
    rw [there]
    cases ok <;> simp [silent,QueueMsg.granted]
  next remaining publish todo there =>
    obtain ⟨rfl,rfl⟩ := Prod.mk.inj (Option.some.inj asked)
    unfold books
    dsimp only
    rw [there]
    exact (congrArg (booked other remaining + ·) (ite_self 0)).symm
  · cases asked

variable {m : Moment} {reply : Option (Nat × Bool)}

lemma Serves.share {letter : Letter}
    (serves : s.Serves cfg next queue m letter reply) (booked : s.Booked cfg) {id : Nat} {k after : Commit}
    (present : s.commits[id]? = some k) (there : next.commits[id]? = some after) (other : QueueHandle) :
    share (cfg other).policy other id after (next.mailboxes other) =
      share (cfg other).policy other id k (s.mailboxes other) + if letter.sender = some id ∧ other = queue then
          ((next.actors queue).reserved : Int) - (s.actors queue).reserved else 0 := by
  obtain ⟨before,same,change⟩ := answer_getElem? (serves.turned.commits ▸ there)
  cases present.symm.trans same
  obtain ⟨rest,boxed,emptied⟩ := serves.turned.mailbox
  obtain ⟨gain,grown,own,whole⟩ : ∃ gain : Nat, after.books other = k.books other + gain ∧
      (gain ≠ 0 → letter.sender = some id ∧ other = queue) ∧
      (letter.sender = some id → other = queue → gain = letter.msg.granted reply.toList) := by
    rcases change with ⟨unanswered,rfl⟩|⟨ok,rfl,rfl⟩
    · refine ⟨0,rfl,fun some => absurd rfl some,fun sent _ => ?_⟩
      generalize shape : letter.msg = msg
      cases msg with
      | reserve count caller =>
        have calling : letter.msg.caller = some caller := by rw [shape]; rfl
        have mine := (serves.requested booked.tracked calling).1
        rw [sent] at mine
        cases mine
        exact absurd shape (serves.turned.later letter rfl (by rw [calling]; exact unanswered) count _)
      | _ => rfl
    obtain ⟨sent,_,listed,asked,silent⟩ := serves.requested booked.tracked serves.caller
    cases present.symm.trans listed
    refine ⟨_,books_answer asked silent ok other,?_,?_⟩
    · intro some
      refine ⟨sent,?_⟩
      by_contra apart
      exact some (if_neg (fun same => apart same.symm))
    · rintro - rfl
      exact if_pos rfl
  unfold Exchange.share
  by_cases mine : letter.sender = some id ∧ other = queue
  · obtain ⟨sent,rfl⟩ := mine
    have less := booked.share_le present other
    unfold share at less
    have response := serves.response
    have both : letter.sender = some id ∧ other = other := ⟨sent,rfl⟩
    rw [if_pos both,emptied,update_self,boxed,grown]
    rw [boxed] at less
    simp only [Option.toList_some,cons_append,nil_append,slotsPosted_cons,sent,if_true] at less ⊢
    cases policy : (cfg other).policy.dropHead with
    | true =>
      have none := booked.dropHead policy
      have still := response.dropHead policy (stand_slots.trans none)
      rw [stand_slots] at still
      simp [none,still]
    | false =>
      have enough : letter.msg.slots ≤ (s.actors other).stand.slots := by
        rw [stand_slots]
        simp only [policy,Bool.false_eq_true,if_false] at less
        omega
      have moved := response.slots policy enough
      rw [← whole sent rfl,stand_slots,stand_slots] at moved
      simp only [Bool.false_eq_true,if_false]
      omega
  have still : gain = 0 := by
    by_contra some
    exact mine (own some)
  have mail : slotsPosted id (next.mailboxes other) = slotsPosted id (s.mailboxes other) := by
    rw [emptied]
    by_cases here : other = queue
    · subst here
      have foreign : letter.sender ≠ some id := fun sent => mine ⟨sent,rfl⟩
      simp [boxed,slotsPosted_cons,foreign]
    · rw [update_of_ne here]
  rw [if_neg mine,grown,still,mail]
  simp

lemma charge_apply (queue : QueueHandle) (sender : Option Nat) (change : Int) (held : Nat → QueueHandle → Int)
    (id : Nat) (other : QueueHandle) : charge queue sender change held id other =
      held id other + if sender = some id ∧ other = queue then change else 0 := by
  rcases sender with _|caller
  · simp [charge]
  · by_cases mine : id = caller <;> by_cases here : other = queue <;>
      simp [charge,mine,here,eq_comm]

lemma outside_slots {p : EffectivePolicy} {stand after : Stand} {msg : QueueMsg} {answers : List (Nat × Bool)}
    (response : Response p stand msg answers after) (outside : msg.fromOutside = true) : after.slots = stand.slots := by
  cases response <;> first | rfl | cases outside

lemma booked_serve {letter : Letter}
    (serves : s.Serves cfg next queue m letter reply) (booked : s.Booked cfg) (tracked : next.Tracked) :
    next.Booked cfg := by
  obtain ⟨rest,boxed,emptied⟩ := serves.turned.mailbox
  have length : next.commits.length = s.commits.length := by rw [serves.turned.commits,answer_length]
  have kept : ∀ other, ∀ other' ∈ next.mailboxes other, other' ∈ s.mailboxes other := fun other other' member =>
    serves.turned.member member
  have first : letter ∈ s.mailboxes queue := by
    rw [boxed]
    exact mem_cons_self
  refine ⟨tracked,?_,?_,?_,?_,?_,?_⟩
  · exact fun other posted member => booked.outside other posted (kept other posted member)
  · intro other posted member id sent
    rw [length]
    exact booked.known other posted (kept other posted member) id sent
  · intro id after there
    obtain ⟨before,present,change⟩ := answer_getElem? (serves.turned.commits ▸ there)
    rcases change with ⟨-,rfl⟩|⟨ok,-,rfl⟩
    · exact booked.covers id _ present
    · exact booked.covers id before present
  · intro id after there other
    obtain ⟨before,present,-⟩ := answer_getElem? (serves.turned.commits ▸ there)
    rw [serves.share booked present there other,serves.held,charge_apply,booked.account id before present other]
  · intro id other beyond
    rw [length] at beyond
    rw [serves.held,charge_apply,booked.absent id other beyond,if_neg]
    · rfl
    · rintro ⟨sent,-⟩
      exact absurd (booked.known queue letter first id sent) (Nat.not_lt.mpr beyond)
  intro other
  have spread : ∑ id ∈ Finset.range s.commits.length, next.held id other =
      ((s.actors other).reserved : Int) + ∑ id ∈ Finset.range s.commits.length,
        if letter.sender = some id ∧ other = queue then
          ((next.actors queue).reserved : Int) - (s.actors queue).reserved else 0 := by
    rw [booked.counted other,← Finset.sum_add_distrib]
    refine Finset.sum_congr rfl fun id _ => ?_
    rw [serves.held,charge_apply]
  rw [length,spread]
  by_cases here : other = queue
  · subst here
    cases sent : letter.sender with
    | none =>
      have same := outside_slots serves.response (booked.outside other letter first sent)
      rw [stand_slots,stand_slots] at same
      simp [same]
    | some id =>
      have bound := booked.known other letter first id sent
      simp only [Option.some.injEq,and_true,Finset.sum_ite_eq,Finset.mem_range,bound,if_true]
      omega
  · simp [here,serves.turned.others other here]

lemma booked_resolve {place : Nat} {result : Option Nat}
    (ok : s.step cfg (.resolve queue m place result) = some next) (booked : s.Booked cfg) (tracked : next.Tracked) :
    next.Booked cfg := by
  obtain ⟨_,actor,_,-,-,turned,slots,same⟩ := resolve_turned ok
  have length : next.commits.length = s.commits.length := by rw [turned.commits,answer_length]
  have mailboxes : next.mailboxes = s.mailboxes := by rw [same]; rfl
  have held : next.held = s.held := by rw [same]; rfl
  refine ⟨tracked,?_,?_,?_,?_,?_,?_⟩
  · rw [mailboxes]
    exact booked.outside
  · rw [mailboxes,length]
    exact booked.known
  · intro id after there
    obtain ⟨before,present,change⟩ := answer_getElem? (turned.commits ▸ there)
    rcases change with ⟨-,rfl⟩|⟨ok,-,rfl⟩
    · exact booked.covers id _ present
    · exact booked.covers id before present
  · intro id after there other
    obtain ⟨before,present,change⟩ := answer_getElem? (turned.commits ▸ there)
    rw [held,mailboxes,booked.account id before present other]
    rcases change with ⟨-,rfl⟩|⟨ok,rfl,rfl⟩
    · rfl
    obtain ⟨_,here⟩ := booked.tracked id
    obtain rfl := turned.settled here.waits (by simp) rfl
    obtain ⟨-,_,_,_,_,there,-⟩ := here.fits before present
    unfold share books
    dsimp only
    rw [there]
  · intro id other beyond
    rw [length] at beyond
    rw [held]
    exact booked.absent id other beyond
  intro other
  rw [length,held,← booked.counted other]
  by_cases here : other = queue
  · subst here
    rw [same]
    change ((update s.actors other actor other).reserved : Int) = _
    rw [update_self,slots]
  · rw [turned.others other here]

def Label.Apart : Label → Prop
  | .discharge txn => Txn.Apart txn.publishes
  | _ => True

instance (publishes : List StagedPublish) : Decidable (Txn.Apart publishes) :=
  inferInstanceAs (Decidable (∀ first ∈ publishes, ∀ second ∈ publishes, _ → _))

instance : DecidablePred Label.Apart
  | .discharge txn => inferInstanceAs (Decidable (Txn.Apart txn.publishes))
  | .post _ _ => isTrue trivial
  | .advance _ => isTrue trivial
  | .serve _ _ => isTrue trivial
  | .resolve _ _ _ _ => isTrue trivial

lemma booked_step {label : Label} (booked : s.Booked cfg) (apart : label.Apart)
    (ok : s.step cfg label = some next) : next.Booked cfg := by
  have tracked := tracked_step booked.tracked ok
  cases label with
  | post queue msg =>
    simp only [step] at ok
    split at ok
    next outside =>
      cases ok
      refine ⟨tracked,?_,?_,booked.covers,?_,booked.absent,booked.counted⟩
      · intro other letter member unsent
        rcases @sends_member s none [(queue,msg)] other letter member with old|⟨-,new⟩
        · exact booked.outside other letter old unsent
        · cases mem_singleton.mp new
          exact outside
      · intro other letter member id sent
        rcases @sends_member s none [(queue,msg)] other letter member with old|⟨new,-⟩
        · exact booked.known other letter old id sent
        · cases new.symm.trans sent
      · intro id k present other
        have silent : (none : Option Nat) ≠ some id := by simp
        rw [share,slotsPosted_send,if_neg silent]
        exact booked.account id k present other
    · cases ok
  | discharge =>
    cases ok
    have none : ∀ queue, slotsPosted s.commits.length (s.mailboxes queue) = 0 := by
      intro queue
      refine sum_eq_zero fun count member => ?_
      obtain ⟨letter,there,rfl⟩ := mem_map.mp member
      exact if_neg fun sent => absurd (booked.known queue letter there _ sent) (lt_irrefl _)
    refine ⟨tracked,booked.outside,?_,?_,?_,?_,?_⟩
    · intro queue letter member id sent
      rw [length_append]
      exact Nat.lt_succ_of_lt (booked.known queue letter member id sent)
    · intro id k present
      rcases discharged present with old|⟨-,rfl⟩
      · exact booked.covers id k old
      · exact ⟨apart,rfl⟩
    · intro id k present queue
      rcases discharged present with old|⟨rfl,rfl⟩
      · exact booked.account id k old queue
      · rw [booked.absent _ queue le_rfl,share,none queue]
        exact (ite_self 0).symm
    · intro id queue beyond
      rw [length_append] at beyond
      exact booked.absent id queue (Nat.le_of_succ_le beyond)
    · intro queue
      rw [length_append,length_singleton,Finset.sum_range_succ,booked.absent _ queue le_rfl,add_zero]
      exact booked.counted queue
  | advance =>
    simp only [step] at ok
    obtain ⟨_,present,rest⟩ := Option.bind_eq_some_iff.mp ok
    obtain ⟨⟨_,_⟩,advanced,same⟩ := Option.map_eq_some_iff.mp rest
    cases same
    exact booked_advance booked present (advance_moves advanced) tracked
  | serve =>
    obtain ⟨_,_,serves⟩ := serve_serves ok
    exact booked_serve serves booked tracked
  | resolve => exact booked_resolve ok booked tracked

lemma Starts.booked (starts : s.Starts) : s.Booked cfg := by
  refine ⟨starts.tracked,?_,?_,?_,?_,?_,?_⟩
  · intro queue letter member
    rw [starts.mailboxes] at member
    cases member
  · intro queue letter member
    rw [starts.mailboxes] at member
    cases member
  · intro id k present
    rw [starts.commits] at present
    cases present
  · intro id k present
    rw [starts.commits] at present
    cases present
  · exact fun id queue _ => starts.held id queue
  · intro queue
    rw [starts.commits,← stand_slots,(starts.fresh queue).1.stand]
    rfl

/-- Every reserved slot is held by one commit, no commit has used or freed more than it was granted, and
one that has returned holds none once its messages are handled. -/
structure SlotsKept (s : Exchange) : Prop where
  counted : ∀ queue, ((s.actors queue).reserved : Int) = ∑ id ∈ Finset.range s.commits.length, s.held id queue
  own : ∀ id queue, 0 ≤ s.held id queue
  returned : ∀ (id : Nat) (k : Commit) (outcome : DischargeOutcome), s.commits[id]? = some k →
    k.phase = .returned outcome → (∀ queue, ∀ letter ∈ s.mailboxes queue, letter.sender ≠ some id) →
    ∀ queue, s.held id queue = 0

lemma Booked.kept (booked : s.Booked cfg) : s.SlotsKept := by
  refine ⟨booked.counted,booked.nonneg,?_⟩
  intro id k outcome present there handled queue
  have none : slotsPosted id (s.mailboxes queue) = 0 := by
    refine sum_eq_zero fun count member => ?_
    obtain ⟨letter,listed,rfl⟩ := mem_map.mp member
    exact if_neg (handled queue letter listed)
  rw [booked.account id k present queue,share,none,books,there]
  exact ite_self 0

end Exchange

open Exchange

theorem commit_slots_kept (cfg : QueueHandle → QueueConfig) (s final : Exchange) (labels : List Label)
    (starts : s.Starts) (apart : ∀ label ∈ labels, label.Apart)
    (ok : Transition.run (step cfg) s labels = some final) : final.SlotsKept := by
  have booked : final.Booked cfg := by
    refine run_invariant ?_ starts.booked (meets_of_forall apart) ok
    exact booked_step
  exact booked.kept

def durableX : QueueHandle := ⟨.durable,"x"⟩

def durableY : QueueHandle := ⟨.durable,"y"⟩

def failedCommit : List Label :=
  [.discharge ⟨[⟨queueX,[1]⟩,⟨durableY,[2]⟩,⟨durableY,[3]⟩],[],false⟩,.advance 0,.serve queueX .quiet,.advance 0,
    .advance 0,.serve durableY .quiet,.advance 0,.advance 0,.advance 0,.serve queueX .quiet,.advance 0,.advance 0,
    .serve durableY .quiet,.resolve durableY .quiet 0 none,.advance 0]

theorem commit_slots_kept_failed : ∃ s, Transition.run (step plainQueues) .empty failedCommit = some s ∧
    (s.commits.map Commit.phase = [.sending [(durableY,.unreserve 1)] (.partially 1 3)] ∧ s.held 0 durableY = 1) ∧
    s.SlotsKept := by
  refine reaches_and (by decide) fun s ok _ => ?_
  exact commit_slots_kept plainQueues .empty s failedCommit empty_starts (by decide) ok

def stolenSlot : List Label :=
  [.discharge ⟨[⟨durableX,[1]⟩],[],false⟩,.discharge ⟨[⟨queueX,[2]⟩,⟨durableX,[3]⟩],[],false⟩,.advance 0,
    .serve durableX .quiet,.advance 1,.serve queueX .quiet,.advance 1,.advance 1,.advance 1,.serve queueX .quiet,
    .advance 1,.advance 1,.serve durableX .quiet]

theorem stolen_slot : ∃ s, Transition.run (step plainQueues) .empty stolenSlot = some s ∧ ¬ s.SlotsKept := by
  refine reaches_then (P := fun s => s.held 1 durableX = -1) (by decide) fun s _ short kept => ?_
  have nonneg := kept.own 1 durableX
  omega

end Ramqp
