import Ramqp.Calls
import Ramqp.Library.Transition

/-! A commit has at most one request open. While it waits, the request is in one mailbox or under way at
one queue, and what answers the commit is the answer to that request. -/
namespace Ramqp

open List Option Function Commit

inductive Commit.Moves (id : Nat) (k : Commit) : Commit → List Send → Prop where
  | granted (held : List (QueueHandle × Nat)) (there : k.phase = .reserve held []) :
      Moves id k {k with phase := .publish 0 held k.txn.publishes} []
  | reserve (held : List (QueueHandle × Nat)) (group : QueueHandle × Nat) (todo : List (QueueHandle × Nat))
      (there : k.phase = .reserve held (group::todo)) :
      Moves id k {k with phase := .reserving held group todo} [(group.1,.reserve group.2 id)]
  | hold (held : List (QueueHandle × Nat)) (group : QueueHandle × Nat) (todo : List (QueueHandle × Nat))
      (there : k.phase = .reserving held group todo) (heard : k.answer = some true) :
      Moves id k {k with answer := none,phase := .reserve (held ++ [group]) todo} []
  | denied (held : List (QueueHandle × Nat)) (group : QueueHandle × Nat) (todo : List (QueueHandle × Nat))
      (there : k.phase = .reserving held group todo) (heard : k.answer = some false) :
      Moves id k (k.rollBack held .rolledBack) []
  | landed (applied : Nat) (remaining : List (QueueHandle × Nat)) (there : k.phase = .publish applied remaining []) :
      Moves id k {k with phase := .sending k.txn.settleSends .complete} []
  | publish (applied : Nat) (remaining : List (QueueHandle × Nat)) (publish : StagedPublish)
      (todo : List StagedPublish) (there : k.phase = .publish applied remaining (publish::todo)) :
      Moves id k
        {k with phase := .publishing applied (Txn.leaveGroup publish.queue.name remaining) publish todo}
        [(publish.queue,.publishReserved publish.body (some (ack id)))]
  | confirmed (applied : Nat) (remaining : List (QueueHandle × Nat)) (publish : StagedPublish)
      (todo : List StagedPublish) (there : k.phase = .publishing applied remaining publish todo)
      (heard : k.answer = some true) :
      Moves id k {k with answer := none,phase := .publish (applied + 1) remaining todo} []
  | refused (applied : Nat) (remaining : List (QueueHandle × Nat)) (publish : StagedPublish)
      (todo : List StagedPublish) (there : k.phase = .publishing applied remaining publish todo)
      (heard : k.answer = some false) :
      Moves id k (k.rollBack (remaining.filter fun group => 0 < group.2)
        (if applied = 0 then .rolledBack else .partially applied k.txn.publishes.length)) []
  | send (send : Send) (sends : List Send) (outcome : DischargeOutcome)
      (there : k.phase = .sending (send::sends) outcome) :
      Moves id k {k with phase := .sending sends outcome} [send]
  | done (outcome : DischargeOutcome) (there : k.phase = .sending [] outcome) :
      Moves id k {k with phase := .returned outcome} []

lemma Txn.leaveGroup_queues (name : String) (groups : List (QueueHandle × Nat)) :
    (Txn.leaveGroup name groups).map Prod.fst = groups.map Prod.fst := by
  induction groups with
  | nil => rfl
  | cons group groups ih =>
    unfold Txn.leaveGroup
    split
    · rfl
    · rw [map_cons,map_cons,ih]

namespace Commit

variable {sends : List Send}

variable {id : Nat} {k next : Commit}

lemma advance_moves (ok : k.advance id = some (next,sends)) : k.Moves id next sends := by
  unfold advance at ok
  split at ok
  next held there =>
    cases ok
    exact .granted held there
  next held group todo there =>
    cases ok
    exact .reserve held group todo there
  next held group todo there =>
    obtain ⟨answer,heard,same⟩ := map_eq_some_iff.mp ok
    cases answer <;> cases same
    · exact .denied held group todo there heard
    · exact .hold held group todo there heard
  next applied remaining there =>
    cases ok
    exact .landed applied remaining there
  next applied remaining publish todo there =>
    cases ok
    exact .publish applied remaining publish todo there
  next applied remaining publish todo there =>
    obtain ⟨answer,heard,same⟩ := map_eq_some_iff.mp ok
    cases answer <;> cases same
    · exact .refused applied remaining publish todo there heard
    · exact .confirmed applied remaining publish todo there heard
  next outcome there =>
    cases ok
    exact .done outcome there
  next send sends outcome there =>
    cases ok
    exact .send send sends outcome there
  · cases ok

def request (id : Nat) (k : Commit) : Option Send :=
  match k.phase with
  | .reserving _ group _ => some (group.1,.reserve group.2 id)
  | .publishing _ _ publish _ => some (publish.queue,.publishReserved publish.body (some (ack id)))
  | _ => none

lemma request_caller {send : Send} (asked : k.request id = some send) : send.2.caller = some id := by
  unfold request at asked
  split at asked <;> cases asked <;> rfl

def Closing (k : Commit) : Prop :=
  ∀ sends outcome, k.phase = .sending sends outcome → ∀ send ∈ sends, send.2.caller = none

lemma settles_closing (settles : List StagedSettle) (outcome : StagedSettle → SettleOutcome) :
    ∀ send ∈ settles.map (fun settle => ((settle.queue,.settle settle.sub settle.msgId (outcome settle)) : Send)),
      send.2.caller = none := by
  intro send member
  obtain ⟨_,-,rfl⟩ := mem_map.mp member
  rfl

lemma rollBack_closing (held : List (QueueHandle × Nat)) (outcome : DischargeOutcome) :
    (k.rollBack held outcome).Closing := by
  intro sends result there send member
  obtain ⟨rfl,-⟩ := CommitPhase.sending.inj there
  rcases mem_append.mp member with unreserve|requeue
  · obtain ⟨_,-,rfl⟩ := mem_map.mp unreserve
    rfl
  · exact settles_closing k.txn.settles (fun _ => .requeue) send requeue

lemma Moves.closing (moved : k.Moves id next sends) (closing : k.Closing) : next.Closing := by
  cases moved with
  | denied held => exact rollBack_closing held _
  | refused => exact rollBack_closing _ _
  | landed =>
    intro sends outcome same
    obtain ⟨rfl,-⟩ := CommitPhase.sending.inj same
    exact settles_closing k.txn.settles StagedSettle.outcome
  | send send sends outcome there =>
    intro rest result same
    obtain ⟨rfl,-⟩ := CommitPhase.sending.inj same
    exact fun other member => closing _ outcome there other (mem_cons_of_mem send member)
  | _ => intro _ _ there; cases there

lemma Moves.asks (moved : k.Moves id next sends) (closing : k.Closing) :
    (k.request id = none ∧ next.answer = k.answer ∧ ∃ send, next.request id = some send ∧ sends = [send]) ∨
    (next.request id = none ∧ (∀ send ∈ sends, send.2.caller = none) ∧
      (k.request id = none ∧ next.answer = k.answer ∨ k.answer.isSome ∧ next.answer = none)) := by
  cases moved with
  | reserve held group todo there | publish applied remaining publish todo there =>
    exact .inl ⟨by rw [request,there],rfl,_,rfl,rfl⟩
  | granted held there | landed applied remaining there | done outcome there =>
    exact .inr ⟨rfl,fun _ member => absurd member not_mem_nil,.inl ⟨by rw [request,there],rfl⟩⟩
  | send send sends outcome there =>
    refine .inr ⟨rfl,?_,.inl ⟨by rw [request,there],rfl⟩⟩
    intro other member
    rw [mem_singleton.mp member]
    exact closing _ outcome there send mem_cons_self
  | hold held group todo there heard | denied held group todo there heard
  | confirmed applied remaining publish todo there heard
  | refused applied remaining publish todo there heard =>
    exact .inr ⟨rfl,fun _ member => absurd member not_mem_nil,.inr ⟨by rw [heard]; rfl,rfl⟩⟩

end Commit

inductive Place where
  | nowhere
  | mailbox (queue : QueueHandle)
  | actor (queue : QueueHandle)
  deriving DecidableEq

def callersIn (mailbox : List Letter) : List Nat := mailbox.filterMap fun letter => letter.msg.caller

lemma callersIn_snoc : callersIn (mailbox ++ [letter]) = callersIn mailbox ++ letter.msg.caller.toList := by
  rw [callersIn,filterMap_append,filterMap_cons]
  cases letter.msg.caller <;> rfl

lemma callersIn_cons (rest : List Letter) :
    callersIn (letter::rest) = letter.msg.caller.toList ++ callersIn rest := by
  rw [callersIn,filterMap_cons]
  cases letter.msg.caller <;> rfl

lemma not_calling {id : Nat} (none : (callersIn mailbox).count id = 0)
    (member : letter ∈ mailbox) : letter.msg.caller ≠ some id := by
  intro calling
  exact count_eq_zero.mp none (mem_filterMap.mpr ⟨letter,member,calling⟩)

def Commit.Fits (id : Nat) (k : Commit) (mailboxes : QueueHandle → List Letter) : Place → Prop
  | .nowhere => k.answer.isSome = (k.request id).isSome
  | .mailbox queue => k.answer = none ∧ ∃ msg, k.request id = some (queue,msg) ∧
      ∀ letter ∈ mailboxes queue, letter.msg.caller = some id → letter = ⟨some id,msg⟩
  | .actor queue => k.answer = none ∧ ∃ applied remaining publish todo,
      k.phase = .publishing applied remaining publish todo ∧ publish.queue = queue

namespace Exchange

variable {id : Nat} {place : Place} {k : Commit} {commits : List Commit} {reply : Option (Nat × Bool)}
  {queue : QueueHandle} {taken : Option Letter} {m : Moment}

variable {letter : Letter}

structure Waits (s : Exchange) (id : Nat) (place : Place) : Prop where
  posted : ∀ queue, (callersIn (s.mailboxes queue)).count id = if place = .mailbox queue then 1 else 0
  underWay : ∀ queue, (s.actors queue).stand.callers.count id = if place = .actor queue then 1 else 0

structure TrackedAt (s : Exchange) (id : Nat) (place : Place) : Prop where
  waits : s.Waits id place
  absent : s.commits[id]? = none → place = .nowhere
  closing : ∀ k, s.commits[id]? = some k → k.Closing
  fits : ∀ k, s.commits[id]? = some k → k.Fits id s.mailboxes place

def Tracked (s : Exchange) : Prop := ∀ id, ∃ place, s.TrackedAt id place

variable {s : Exchange} {sender : Option Nat}

lemma Waits.send (waits : s.Waits id place) {send : Send}
    (other : send.2.caller ≠ some id) : (s.send sender send).Waits id place := by
  refine ⟨fun queue => ?_,waits.underWay⟩
  unfold Exchange.send
  by_cases here : queue = send.1
  · subst here
    have none : send.2.caller.toList.count id = 0 := by
      rw [count_eq_zero,mem_toList]
      exact other
    simp only [update_self,callersIn_snoc,count_append,none,Nat.add_zero]
    exact waits.posted send.1
  · simp only [update_of_ne here]
    exact waits.posted queue

lemma Waits.ask (waits : s.Waits id .nowhere) {send : Send}
    (mine : send.2.caller = some id) : (s.send sender send).Waits id (.mailbox send.1) := by
  refine ⟨fun queue => ?_,waits.underWay⟩
  have before := waits.posted queue
  unfold Exchange.send
  by_cases here : queue = send.1
  · subst here
    simp only [update_self,callersIn_snoc,count_append,mine,before]
    simp
  · simp only [update_of_ne here,before]
    simp [Ne.symm here]

private lemma Fits.send (fits : k.Fits id s.mailboxes place) {send : Send}
    (other : send.2.caller ≠ some id) : k.Fits id (s.send sender send).mailboxes place := by
  cases place with
  | nowhere | actor => exact fits
  | mailbox queue =>
    obtain ⟨silent,msg,asked,only⟩ := fits
    refine ⟨silent,msg,asked,?_⟩
    intro letter member calling
    unfold Exchange.send at member
    by_cases here : queue = send.1
    · subst here
      simp only [update_self,mem_append,mem_singleton] at member
      rcases member with old|rfl
      · exact only letter old calling
      · exact absurd calling other
    · simp only [update_of_ne here] at member
      exact only letter member calling

lemma TrackedAt.send (tracked : s.TrackedAt id place) (sender : Option Nat) {send : Send}
    (other : send.2.caller ≠ some id) : (s.send sender send).TrackedAt id place :=
  ⟨tracked.waits.send other,tracked.absent,tracked.closing,
    fun k present => Fits.send (tracked.fits k present) other⟩

lemma TrackedAt.sends (tracked : s.TrackedAt id place) (sender : Option Nat)
    {sends : List Send} (others : ∀ send ∈ sends, send.2.caller ≠ some id) :
    (sends.foldl (Exchange.send sender) s).TrackedAt id place := by
  induction sends generalizing s with
  | nil => exact tracked
  | cons send sends ih =>
    exact ih (tracked.send sender (others send mem_cons_self))
      (fun other member => others other (mem_cons_of_mem send member))

lemma Fits.nowhere {mailboxes : QueueHandle → List Letter} (fits : k.Fits id mailboxes place)
    (idle : k.request id = none ∨ k.answer.isSome) : place = .nowhere := by
  cases place with
  | nowhere => rfl
  | mailbox =>
    obtain ⟨silent,msg,asked,-⟩ := fits
    rw [silent,asked] at idle
    rcases idle with none|some <;> contradiction
  | actor =>
    obtain ⟨silent,applied,remaining,publish,todo,there,-⟩ := fits
    rw [silent,request,there] at idle
    rcases idle with none|some <;> contradiction

lemma sends_same (sender : Option Nat) (sends : List Send) (s : Exchange) :
    (sends.foldl (send sender) s).actors = s.actors ∧
    (sends.foldl (send sender) s).commits = s.commits ∧
    (sends.foldl (send sender) s).history = s.history ∧
    (sends.foldl (send sender) s).held = s.held := by
  induction sends generalizing s with
  | nil => exact ⟨rfl,rfl,rfl,rfl⟩
  | cons send sends ih => exact ih (s.send sender send)

lemma tracked_advance {next : Commit} (tracked : s.Tracked)
    (present : s.commits[id]? = some k) (moved : k.Moves id next sends) :
    (sends.foldl (Exchange.send (some id)) {s with commits := s.commits.set id next}).Tracked := by
  have bound : id < s.commits.length := (List.getElem?_eq_some_iff.mp present).1
  have now : (s.commits.set id next)[id]? = some next := getElem?_set_self bound
  obtain ⟨_,here⟩ := tracked id
  have closing := here.closing k present
  have fits := here.fits k present
  have asks := moved.asks closing
  intro other
  by_cases mine : other = id
  · subst mine
    rcases asks with ⟨idle,answer,send,asked,rfl⟩|⟨idle,silent,heard⟩
    · obtain rfl := Fits.nowhere fits (.inl idle)
      have both : k.answer.isSome = (k.request other).isSome := fits
      have unanswered : next.answer = none := by
        rw [idle] at both
        rw [answer]
        exact isNone_iff_eq_none.mp (by simpa using both)
      have before : {s with commits := s.commits.set other next}.Waits other .nowhere :=
        ⟨here.waits.posted,here.waits.underWay⟩
      refine ⟨.mailbox send.1,before.ask (Commit.request_caller asked),?_,?_,?_⟩
      · intro absent; cases now.symm.trans absent
      · intro k same
        cases now.symm.trans same
        exact moved.closing closing
      intro k same
      cases now.symm.trans same
      refine ⟨unanswered,send.2,asked,?_⟩
      intro letter member calling
      simp only [foldl_cons,foldl_nil,Exchange.send,update_self,mem_append,mem_singleton] at member
      rcases member with old|rfl
      · exact absurd calling (not_calling (here.waits.posted send.1) old)
      · rfl
    obtain rfl := Fits.nowhere fits (heard.imp (fun quiet => quiet.1) (fun heard => heard.1))
    have both : k.answer.isSome = (k.request other).isSome := fits
    refine ⟨.nowhere,?_⟩
    refine TrackedAt.sends ?_ (some other) fun send member => by simp [silent send member]
    refine ⟨⟨here.waits.posted,here.waits.underWay⟩,fun _ => rfl,?_,?_⟩
    · intro k same
      cases now.symm.trans same
      exact moved.closing closing
    intro k same
    cases now.symm.trans same
    change next.answer.isSome = (next.request other).isSome
    rcases heard with ⟨unasked,same⟩|⟨-,cleared⟩
    · rw [idle,same,both,unasked]
    · rw [idle,cleared]
      rfl
  obtain ⟨elsewhere,there⟩ := tracked other
  have same : (s.commits.set id next)[other]? = s.commits[other]? := getElem?_set_ne (Ne.symm mine)
  refine ⟨elsewhere,?_⟩
  refine TrackedAt.sends ?_ (some id) ?_
  · exact ⟨⟨there.waits.posted,there.waits.underWay⟩,fun absent => there.absent (same.symm.trans absent),
      fun k member => there.closing k (same.symm.trans member),
      fun k member => there.fits k (same.symm.trans member)⟩
  intro send member calling
  rcases asks with ⟨-,-,asking,asked,rfl⟩|⟨-,silent,-⟩
  · rw [mem_singleton.mp member,Commit.request_caller asked] at calling
    exact mine (some.inj calling).symm
  · rw [silent send member] at calling
    cases calling

lemma answer_getElem? (present : (reply.toList.foldl answer commits)[id]? = some k) :
    ∃ before, commits[id]? = some before ∧
      (reply.map Prod.fst ≠ some id ∧ k = before ∨ ∃ ok, reply = some (id,ok) ∧ k = {before with answer := some ok}) := by
  rcases reply with _|⟨caller,ok⟩
  · exact ⟨k,present,.inl ⟨by simp,rfl⟩⟩
  simp only [toList_some,foldl_cons,foldl_nil,answer,getElem?_modify,
    Option.map_eq_map,Option.map_eq_some_iff] at present
  obtain ⟨before,there,same⟩ := present
  refine ⟨before,there,?_⟩
  by_cases mine : caller = id
  · rw [if_pos mine] at same
    exact .inr ⟨ok,by rw [mine],same.symm⟩
  · rw [if_neg mine] at same
    exact .inl ⟨fun called => mine (some.inj called),same.symm⟩

lemma answer_length : (reply.toList.foldl answer commits).length = commits.length := by
  rcases reply with _|reply
  · rfl
  · exact length_modify _ _ _

lemma answer_present (present : commits[id]? = some k) :
    ∃ after, (reply.toList.foldl answer commits)[id]? = some after ∧
      (reply.map Prod.fst ≠ some id ∧ after = k ∨ ∃ ok, reply = some (id,ok) ∧ after = {k with answer := some ok}) := by
  have bound : id < (reply.toList.foldl answer commits).length := by
    rw [answer_length]
    exact (List.getElem?_eq_some_iff.mp present).1
  obtain ⟨_,old,change⟩ := answer_getElem? (getElem?_eq_getElem bound)
  cases present.symm.trans old
  exact ⟨_,getElem?_eq_getElem bound,change⟩

structure Turned (s next : Exchange) (queue : QueueHandle) (taken : Option Letter) (reply : Option (Nat × Bool)) :
    Prop where
  mailbox : ∃ rest, s.mailboxes queue = taken.toList ++ rest ∧
    next.mailboxes = update s.mailboxes queue rest
  others : ∀ other, other ≠ queue → next.actors other = s.actors other
  commits : next.commits = reply.toList.foldl answer s.commits
  calls : ((next.actors queue).stand.callers ++ (reply.map Prod.fst).toList).Perm
    ((s.actors queue).stand.callers ++ (taken.bind (fun letter => letter.msg.caller)).toList)
  later : ∀ letter, taken = some letter → reply.map Prod.fst ≠ letter.msg.caller →
    ∀ count reply, letter.msg ≠ .reserve count reply

lemma count_option (option : Option Nat) : option.toList.count id = if option = some id then 1 else 0 := by
  rcases option with _|other
  · rfl
  · by_cases same : other = id <;> simp [same]

variable {next : Exchange}

section

variable (turned : s.Turned next queue taken reply)

include turned

lemma Turned.count (id : Nat) :
    (next.actors queue).stand.callers.count id + (if reply.map Prod.fst = some id then 1 else 0) =
      (s.actors queue).stand.callers.count id +
        (if taken.bind (fun letter => letter.msg.caller) = some id then 1 else 0) := by
  have same := perm_iff_count.mp turned.calls id
  rwa [count_append,count_append,count_option,count_option] at same

lemma Turned.posted (id : Nat) (other : QueueHandle) :
    (callersIn (s.mailboxes other)).count id = (callersIn (next.mailboxes other)).count id +
      (if other = queue ∧ taken.bind (fun letter => letter.msg.caller) = some id then 1 else 0) := by
  obtain ⟨rest,before,after⟩ := turned.mailbox
  by_cases here : other = queue
  · subst here
    rw [after,before,update_self]
    rcases taken with _|letter
    · simp
    simp only [toList_some,cons_append,nil_append,callersIn_cons,count_append,count_option,bind_some,true_and]
    omega
  · rw [after,update_of_ne here]
    simp [here]

lemma Turned.member (member : letter ∈ next.mailboxes other) : letter ∈ s.mailboxes other := by
  obtain ⟨_,before,after⟩ := turned.mailbox
  rw [after] at member
  by_cases here : other = queue
  · subst here
    rw [update_self] at member
    rw [before]
    exact mem_append_right _ member
  · rwa [update_of_ne here] at member

end

def placeAfter (queue : QueueHandle) (caller : Option Nat) (answered : Option Nat) (id : Nat) (place : Place) : Place :=
  if answered = some id then .nowhere else if caller = some id then .actor queue else place

section

variable (turned : s.Turned next queue taken reply)

include turned

lemma Turned.took (waits : s.Waits id place)
    (mine : taken.bind (fun letter => letter.msg.caller) = some id) : place = .mailbox queue := by
  have left := turned.posted id queue
  rw [if_pos ⟨rfl,mine⟩,waits.posted queue] at left
  by_contra elsewhere
  rw [if_neg elsewhere] at left
  omega

lemma Turned.settled (waits : s.Waits id place)
    (other : taken.bind (fun letter => letter.msg.caller) ≠ some id) (answered : reply.map Prod.fst = some id) :
    place = .actor queue := by
  have left := turned.count id
  rw [waits.underWay queue,if_pos answered,if_neg other] at left
  by_contra elsewhere
  rw [if_neg elsewhere] at left
  omega

lemma Turned.waits (waits : s.Waits id place) : next.Waits id
      (placeAfter queue (taken.bind (fun letter => letter.msg.caller)) (reply.map Prod.fst) id place) := by
  have counted := turned.count id
  have mail := turned.posted id
  have elsewhere : ∀ other, other ≠ queue →
      (next.actors other).stand.callers.count id = if place = .actor other then 1 else 0 := by
    intro other apart
    rw [turned.others other apart]
    exact waits.underWay other
  unfold placeAfter
  by_cases mine : taken.bind (fun letter => letter.msg.caller) = some id
  · obtain rfl := turned.took waits mine
    have gone : ∀ other, (callersIn (next.mailboxes other)).count id = 0 := by
      intro other
      have left := mail other
      rw [waits.posted other] at left
      by_cases here : other = queue
      · simp [here,mine] at left
        simpa [here] using left
      · simpa [here,Ne.symm here] using left.symm
    rw [waits.underWay queue,if_pos mine] at counted
    by_cases answered : reply.map Prod.fst = some id
    · simp only [answered,if_true] at counted ⊢
      refine ⟨fun other => by simp [gone],fun other => ?_⟩
      by_cases here : other = queue
      · subst here
        simpa using counted
      · simp [elsewhere other here]
    simp only [answered,mine,if_true,if_false] at counted ⊢
    refine ⟨fun other => by simp [gone],fun other => ?_⟩
    by_cases here : other = queue
    · subst here
      simpa using counted
    · simp [elsewhere other here,Ne.symm here]
  have kept : ∀ other, (callersIn (next.mailboxes other)).count id = if place = .mailbox other then 1 else 0 := by
    intro other
    have left := mail other
    rw [if_neg (fun both => mine both.2),waits.posted other] at left
    exact left.symm
  rw [if_neg mine,Nat.add_zero] at counted
  by_cases answered : reply.map Prod.fst = some id
  · obtain rfl := turned.settled waits mine answered
    rw [waits.underWay queue,if_pos answered,if_pos rfl] at counted
    simp only [answered,if_true]
    refine ⟨fun other => by simp [kept],fun other => ?_⟩
    by_cases here : other = queue
    · subst here
      simpa using counted
    · simp [elsewhere other here,Ne.symm here]
  simp only [answered,mine,if_false] at counted ⊢
  refine ⟨kept,fun other => ?_⟩
  by_cases here : other = queue
  · subst here
    exact counted.trans (waits.underWay other)
  · exact elsewhere other here

lemma Turned.fits
    (here : s.TrackedAt id place) {before : Commit} (present : s.commits[id]? = some before)
    (change : reply.map Prod.fst ≠ some id ∧ k = before ∨ ∃ ok, reply = some (id,ok) ∧ k = {before with answer := some ok}) :
    k.Fits id next.mailboxes
      (placeAfter queue (taken.bind (fun letter => letter.msg.caller)) (reply.map Prod.fst) id place) := by
  have fits := here.fits before present
  unfold placeAfter
  rcases change with ⟨unanswered,rfl⟩|⟨ok,rfl,rfl⟩
  · rw [if_neg unanswered]
    by_cases mine : taken.bind (fun letter => letter.msg.caller) = some id
    · rw [if_pos mine]
      obtain rfl := turned.took here.waits mine
      obtain ⟨letter,rfl,calling⟩ := bind_eq_some_iff.mp mine
      obtain ⟨silent,msg,asked,only⟩ := fits
      obtain ⟨_,boxed,-⟩ := turned.mailbox
      have same := only letter (by rw [boxed]; exact mem_cons_self) calling
      have notReserve := turned.later letter rfl (by rw [calling]; exact unanswered)
      refine ⟨silent,?_⟩
      unfold request at asked
      split at asked
      · cases asked
        exact absurd (congrArg Letter.msg same) (notReserve _ _)
      next applied remaining publish todo there =>
        cases asked
        exact ⟨applied,remaining,publish,todo,there,rfl⟩
      · cases asked
    rw [if_neg mine]
    cases place with
    | nowhere | actor => exact fits
    | mailbox =>
      obtain ⟨silent,msg,asked,only⟩ := fits
      exact ⟨silent,msg,asked,fun letter member => only letter (turned.member member)⟩
  have asked : (before.request id).isSome := by
    by_cases mine : taken.bind (fun letter => letter.msg.caller) = some id
    · obtain rfl := turned.took here.waits mine
      obtain ⟨-,_,asked,-⟩ := fits
      rw [asked]
      rfl
    obtain rfl := turned.settled here.waits mine rfl
    obtain ⟨-,_,_,_,_,there,-⟩ := fits
    rw [request,there]
    rfl
  rw [if_pos (by rfl)]
  exact asked.symm

lemma tracked_turned (tracked : s.Tracked) : next.Tracked := by
  intro id
  obtain ⟨_,here⟩ := tracked id
  have commits := turned.commits
  refine ⟨_,turned.waits here.waits,?_,?_,?_⟩
  · intro absent
    have gone : s.commits[id]? = none := by
      rw [commits] at absent
      rw [getElem?_eq_none_iff,answer_length] at absent
      exact getElem?_eq_none_iff.mpr absent
    obtain rfl := here.absent gone
    unfold placeAfter
    split
    · rfl
    · rw [if_neg]
      intro mine; cases turned.took here.waits mine
  · intro k present
    rw [commits] at present
    obtain ⟨before,there,change⟩ := answer_getElem? present
    rcases change with ⟨-,rfl⟩|⟨ok,-,rfl⟩
    · exact here.closing _ there
    · exact here.closing before there
  · intro k present
    rw [commits] at present
    obtain ⟨_,there,change⟩ := answer_getElem? present
    exact turned.fits here there change

end

variable {cfg : QueueHandle → QueueConfig} {s next : Exchange}

structure Serves (cfg : QueueHandle → QueueConfig) (s next : Exchange) (queue : QueueHandle) (m : Moment)
    (letter : Letter) (reply : Option (Nat × Bool)) : Prop where
  turned : s.Turned next queue (some letter) reply
  answers : ((s.actors queue).turn (cfg queue) m letter.msg).2.filterMap QueueEffect.answer = reply.toList
  actor : next.actors queue = ((s.actors queue).turn (cfg queue) m letter.msg).1
  response : Response (cfg queue).policy (s.actors queue).stand letter.msg reply.toList (next.actors queue).stand
  history : next.history = update s.history queue
    (s.history queue ++ ((s.actors queue).turn (cfg queue) m letter.msg).2)
  held : next.held = charge queue letter.sender ((next.actors queue).reserved - (s.actors queue).reserved) s.held

lemma serve_serves (ok : s.step cfg (.serve queue m) = some next) :
    ∃ letter reply, s.Serves cfg next queue m letter reply := by
  simp only [step] at ok
  split at ok
  · cases ok
  rename_i letter rest boxed
  have response := (s.actors queue).turn_response (cfg queue) m letter.msg
  obtain ⟨reply,answers⟩ := response.single
  have calls := response.calls
  cases ok
  have now : update s.actors queue ((s.actors queue).turn (cfg queue) m letter.msg).1 queue =
      ((s.actors queue).turn (cfg queue) m letter.msg).1 := update_self ..
  refine ⟨letter,reply,⟨⟨rest,boxed,rfl⟩,fun other apart => update_of_ne apart _ _,?_,?_,?_⟩,answers,now,
    ?_,rfl,?_⟩
  · exact congrArg (foldl answer s.commits) answers
  · change ((update s.actors queue _ queue).stand.callers ++ _).Perm _
    rw [now]
    rw [answers] at calls
    rcases reply with _|reply <;> exact calls
  · intro taken same different count answer reserve
    cases same
    rw [answers] at response
    generalize ((s.actors queue).turn (cfg queue) m letter.msg).1.stand = after at response
    rw [reserve] at response different
    cases reply <;> cases response
    exact different rfl
  · change Response _ _ _ _ (update s.actors queue _ queue).stand
    rw [now,← answers]
    exact response
  · change _ = charge _ _ ((update s.actors queue _ queue).reserved - _) _
    rw [now]
    rfl

lemma Serves.requested (serves : s.Serves cfg next queue m letter reply) (tracked : s.Tracked)
    (calling : letter.msg.caller = some id) : letter.sender = some id ∧
      ∃ k, s.commits[id]? = some k ∧ k.request id = some (queue,letter.msg) ∧ k.answer = none := by
  obtain ⟨_,here⟩ := tracked id
  obtain rfl := serves.turned.took here.waits calling
  obtain ⟨k,present⟩ : ∃ k, s.commits[id]? = some k := by
    cases present : s.commits[id]? with
    | none => cases here.absent present
    | some k => exact ⟨k,rfl⟩
  obtain ⟨silent,_,asked,only⟩ := here.fits k present
  obtain ⟨_,boxed,-⟩ := serves.turned.mailbox
  have same := only letter (by rw [boxed]; exact mem_cons_self) calling
  rw [same]
  exact ⟨rfl,k,present,asked,silent⟩

lemma Serves.caller {ok : Bool} (serves : s.Serves cfg next queue m letter (some (id,ok))) :
    letter.msg.caller = some id := by
  have member : (id,ok) ∈ (some (id,ok)).toList := mem_singleton_self _
  exact serves.response.caller member

lemma resolve_turned {place : Nat} {result : Option Nat}
    (ok : s.step cfg (.resolve queue m place result) = some next) :
    ∃ reply actor effects, (s.actors queue).resolve (cfg queue) m place result = some (actor,effects) ∧
      effects.filterMap QueueEffect.answer = reply.toList ∧ s.Turned next queue none reply ∧
      actor.reserved = (s.actors queue).reserved ∧ next = s.finish queue actor effects := by
  simp only [step] at ok
  obtain ⟨⟨actor,effects⟩,resolved,same⟩ := map_eq_some_iff.mp ok
  obtain ⟨reply,answers,slots,calls⟩ := QueueActor.resolve_response resolved
  cases same
  have now : update s.actors queue actor queue = actor := update_self ..
  refine ⟨reply,actor,effects,resolved,answers,⟨?_,?_,?_,?_,by simp⟩,slots,rfl⟩
  · exact ⟨s.mailboxes queue,rfl,(update_eq_self ..).symm⟩
  · exact fun other apart => update_of_ne apart _ _
  · exact congrArg (foldl answer s.commits) answers
  change ((update s.actors queue _ queue).stand.callers ++ _).Perm _
  rw [now]
  simpa using calls

lemma discharged {txn : Txn} (present : (commits ++ [start txn])[id]? = some k) :
    commits[id]? = some k ∨ id = commits.length ∧ k = .start txn := by
  rcases lt_trichotomy id commits.length with old|new|beyond
  · exact .inl ((getElem?_append_left old).symm.trans present)
  · rw [new,getElem?_concat_length] at present
    exact .inr ⟨new,(some.inj present).symm⟩
  · rw [getElem?_eq_none (by rw [length_append]; exact beyond)] at present
    cases present

lemma tracked_step {label : Label} (tracked : s.Tracked) (ok : s.step cfg label = some next) : next.Tracked := by
  cases label with
  | post queue msg =>
    simp only [step] at ok
    split at ok
    next outside =>
      cases ok
      have nobody : msg.caller = none := by
        cases msg <;> simp_all [QueueMsg.fromOutside,QueueMsg.caller]
      intro id
      obtain ⟨place,here⟩ := tracked id
      exact ⟨place,here.send none (by rw [nobody]; intro same; cases same)⟩
    · cases ok
  | discharge =>
    cases ok
    intro id
    obtain ⟨place,here⟩ := tracked id
    refine ⟨place,⟨here.waits.posted,here.waits.underWay⟩,?_,?_,?_⟩
    · intro absent
      refine here.absent (getElem?_eq_none ?_)
      have short := getElem?_eq_none_iff.mp absent
      rw [length_append] at short
      omega
    · intro k present
      rcases discharged present with old|⟨-,rfl⟩
      · exact here.closing k old
      · intro sends outcome there
        cases there
    intro k present
    rcases discharged present with old|⟨rfl,rfl⟩
    · exact here.fits k old
    · rw [here.absent (getElem?_eq_none le_rfl)]
      rfl
  | advance =>
    simp only [step] at ok
    obtain ⟨_,present,rest⟩ := bind_eq_some_iff.mp ok
    obtain ⟨⟨_,_⟩,advanced,same⟩ := map_eq_some_iff.mp rest
    cases same
    exact tracked_advance tracked present (advance_moves advanced)
  | serve =>
    obtain ⟨_,_,serves⟩ := serve_serves ok
    exact tracked_turned serves.turned tracked
  | resolve =>
    obtain ⟨_,_,_,-,-,turned,-⟩ := resolve_turned ok
    exact tracked_turned turned tracked

lemma Tracked.idle (tracked : s.Tracked) (present : s.commits[id]? = some k) (unasked : k.request id = none) :
    k.answer = none := by
  obtain ⟨_,here⟩ := tracked id
  have fits := here.fits k present
  obtain rfl := Fits.nowhere fits (.inl unasked)
  have both : k.answer.isSome = (k.request id).isSome := fits
  rw [unasked] at both
  exact isNone_iff_eq_none.mp (by simpa using both)

lemma whose {other : Nat} {moved after : Commit} (bound : id < commits.length)
    (there : (commits.set id moved)[other]? = some after) :
    other = id ∧ after = moved ∨ other ≠ id ∧ commits[other]? = some after := by
  by_cases mine : other = id
  · subst mine
    rw [getElem?_set_self bound] at there
    exact .inl ⟨rfl,(some.inj there).symm⟩
  · rw [getElem?_set_ne (Ne.symm mine)] at there
    exact .inr ⟨mine,there⟩

structure Starts (s : Exchange) : Prop where
  fresh : ∀ queue, (s.actors queue).Fresh ∧ (s.actors queue).kind = queue.kind
  mailboxes : ∀ queue, s.mailboxes queue = []
  commits : s.commits = []
  history : ∀ queue, s.history queue = []
  held : ∀ id queue, s.held id queue = 0

lemma Starts.tracked (starts : s.Starts) : s.Tracked := by
  intro id
  have nobody : s.commits[id]? = none := by
    rw [starts.commits]
    rfl
  refine ⟨.nowhere,⟨fun queue => ?_,fun queue => ?_⟩,fun _ => rfl,?_,?_⟩
  · rw [starts.mailboxes]
    rfl
  · rw [(starts.fresh queue).1.stand]
    rfl
  · intro k present; cases nobody.symm.trans present
  · intro k present; cases nobody.symm.trans present

end Exchange

def plainPolicy : EffectivePolicy := ⟨none,10,1000,false,none,none,false⟩

def plainQueues : QueueHandle → QueueConfig := fun _ => ⟨plainPolicy,0⟩

def Exchange.empty : Exchange where
  actors queue := match queue.kind with
    | .transient => .transient {}
    | .durable => .durable (DurableQueue.recover [])
    | .quorum => .quorum {}

lemma Exchange.empty_starts : Exchange.empty.Starts := by
  refine ⟨?_,fun _ => rfl,rfl,fun _ => rfl,fun _ _ => rfl⟩
  rintro ⟨kind,name⟩
  cases kind
  · exact ⟨.transient,rfl⟩
  · exact ⟨.quorum ∅,rfl⟩
  · exact ⟨.durable [],rfl⟩

def queueX : QueueHandle := ⟨.transient,"x"⟩

end Ramqp
