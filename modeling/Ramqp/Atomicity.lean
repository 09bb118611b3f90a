import Ramqp.Requests
import Ramqp.Conservation
import Ramqp.Library.Progress

/-! A transient queue never refuses a publish into a slot it has granted. So a commit over transient
queues stores all its bodies or none, and it returns as long as its queues and itself get their turns. -/
namespace Ramqp

open List Option Function Commit QueueActor Transition

namespace Txn

def bodiesTo (queue : QueueHandle) (publishes : List StagedPublish) : List Bytes :=
  (publishes.filter (fun publish => publish.queue = queue)).map StagedPublish.body

def Transient (t : Txn) : Prop := ∀ publish ∈ t.publishes, publish.queue.kind = .transient

end Txn

variable {stored : QueueHandle → List Bytes}

namespace Commit

variable {sends : List Send}

def Lands (k : Commit) (stored : QueueHandle → List Bytes) : Prop :=
  match k.phase with
  | .reserve _ _ => ∀ queue, stored queue = []
  | .reserving _ _ _ => ∀ queue, stored queue = []
  | .publish _ _ todo => ∃ done, k.txn.publishes = done ++ todo ∧ ∀ queue, stored queue = Txn.bodiesTo queue done
  | .publishing _ _ publish todo => ∃ done, k.txn.publishes = done ++ publish::todo ∧ k.answer ≠ some false ∧
      ∀ queue, stored queue = Txn.bodiesTo queue (if k.answer = some true then done ++ [publish] else done)
  | .sending _ outcome => outcome = .complete ∧ (∀ queue, stored queue = Txn.bodiesTo queue k.txn.publishes) ∨
      outcome = .rolledBack ∧ ∀ queue, stored queue = []
  | .returned outcome => outcome = .complete ∧ (∀ queue, stored queue = Txn.bodiesTo queue k.txn.publishes) ∨
      outcome = .rolledBack ∧ ∀ queue, stored queue = []

variable {id : Nat} {k next : Commit}

lemma Moves.txn (moved : k.Moves id next sends) : next.txn = k.txn := by
  cases moved <;> rfl

lemma Moves.lands (moved : k.Moves id next sends)
    (idle : k.request id = none → k.answer = none) (lands : k.Lands stored) : next.Lands stored := by
  unfold Lands at lands
  cases moved with
  | granted held there =>
    rw [there] at lands
    exact ⟨[],rfl,lands⟩
  | reserve held group todo there | hold held group todo there | send send sends outcome there
  | done outcome there =>
    rw [there] at lands
    exact lands
  | denied held group todo there =>
    rw [there] at lands
    exact .inr ⟨rfl,lands⟩
  | landed applied remaining there =>
    rw [there] at lands
    obtain ⟨_,all,kept⟩ := lands
    rw [append_nil] at all
    refine .inl ⟨rfl,?_⟩
    intro queue
    rw [all]
    exact kept queue
  | publish applied remaining publish todo there =>
    rw [there] at lands
    obtain ⟨done,all,kept⟩ := lands
    have unanswered : k.answer = none := idle (by rw [request,there])
    refine ⟨done,all,?_,fun queue => ?_⟩
    · rw [unanswered]
      intro same
      cases same
    · rw [unanswered]
      exact kept queue
  | confirmed applied remaining publish todo there heard =>
    rw [there] at lands
    obtain ⟨done,all,-,kept⟩ := lands
    refine ⟨done ++ [publish],?_,fun queue => ?_⟩
    · rw [append_assoc]
      exact all
    · have stored := kept queue
      rwa [if_pos heard] at stored
  | refused applied remaining publish todo there heard =>
    rw [there] at lands
    obtain ⟨_,_,accepted,-⟩ := lands
    exact absurd heard accepted

def weight (k : Commit) : Nat :=
  match k.phase with
  | .reserve held todo =>
    2 * todo.length + 2 * k.txn.publishes.length + held.length + todo.length + k.txn.settles.length + 3
  | .reserving held _ todo =>
    2 * todo.length + 2 * k.txn.publishes.length + held.length + todo.length + k.txn.settles.length + 5
  | .publish _ remaining todo => 2 * todo.length + remaining.length + k.txn.settles.length + 2
  | .publishing _ remaining _ todo => 2 * todo.length + remaining.length + k.txn.settles.length + 3
  | .sending sends _ => sends.length + 1
  | .returned _ => 0

lemma rollBack_weight (held : List (QueueHandle × Nat)) (outcome : DischargeOutcome) :
    (k.rollBack held outcome).weight = held.length + k.txn.settles.length + 1 := by
  simp [weight,rollBack,unreserveSends,Txn.requeueSends]

lemma Moves.weight_lt (moved : k.Moves id next sends) : next.weight < k.weight := by
  cases moved with
  | denied held group todo there =>
    rw [rollBack_weight,weight,there]
    dsimp only
    omega
  | refused applied remaining publish todo there =>
    have fewer := length_filter_le (fun group : QueueHandle × Nat => decide (0 < group.2)) remaining
    rw [rollBack_weight,weight,there]
    dsimp only
    omega
  | hold held group todo there =>
    simp only [weight,there,length_append,length_singleton]
    omega
  | publish applied remaining publish todo there =>
    have same := congrArg length (Txn.leaveGroup_queues publish.queue.name remaining)
    rw [length_map,length_map] at same
    simp only [weight,there,same,length_cons]
    omega
  | landed applied remaining there =>
    simp only [weight,there,Txn.settleSends,length_map]
    omega
  | granted held there =>
    simp only [weight,there,length_nil]
    omega
  | reserve held group todo there | send send sends outcome there =>
    simp only [weight,there,length_cons]
    omega
  | confirmed applied remaining publish todo there | done outcome there =>
    simp only [weight,there]
    omega

end Commit

namespace Exchange

variable {cfg : QueueHandle → QueueConfig} {s next : Exchange}

variable {letter : Letter} {reply : Option (Nat × Bool)} {label : Label}

variable {id : Nat} {k : Commit} {queue : QueueHandle} {m : Moment}

def storedBy (s : Exchange) (id : Nat) (queue : QueueHandle) : List Bytes :=
  (s.history queue).filterMap (QueueEffect.storedFor id)

structure Atomic (s : Exchange) : Prop where
  tracked : s.Tracked
  kinds : ∀ queue, (s.actors queue).kind = queue.kind
  lands : ∀ (id : Nat) (k : Commit), s.commits[id]? = some k → k.txn.Transient → k.Lands (s.storedBy id)
  fresh : ∀ id queue, s.commits.length ≤ id → s.storedBy id queue = []

private lemma Atomic.posted (atomic : s.Atomic) (present : s.commits[id]? = some k) (transient : k.txn.Transient)
    {place : Place} (here : s.TrackedAt id place) (queue : QueueHandle) : place ≠ .actor queue := by
  rintro rfl
  obtain ⟨-,_,_,publish,_,there,same⟩ := here.fits k present
  have lands := atomic.lands id k present transient
  unfold Commit.Lands at lands
  rw [there] at lands
  obtain ⟨_,all,-⟩ := lands
  have kind := transient publish (by rw [all]; simp)
  rw [same,← atomic.kinds queue] at kind
  have underWay := here.waits.underWay queue
  rw [if_pos rfl] at underWay
  cases actor : s.actors queue with
  | transient =>
    rw [actor] at underWay
    cases underWay
  | durable | quorum =>
    rw [actor] at kind
    cases kind

lemma atomic_advance {moved : Commit} (atomic : s.Atomic)
    (present : s.commits[id]? = some k) (moves : k.Moves id moved sends)
    (tracked : (sends.foldl (send (some id)) {s with commits := s.commits.set id moved}).Tracked) :
    (sends.foldl (Exchange.send (some id)) {s with commits := s.commits.set id moved}).Atomic := by
  have bound := (List.getElem?_eq_some_iff.mp present).1
  obtain ⟨actors,commits,history,-⟩ := sends_same (some id) sends {s with commits := s.commits.set id moved}
  have stored : ∀ other, storedBy (sends.foldl (send (some id))
      {s with commits := s.commits.set id moved}) other = s.storedBy other := by
    intro other
    funext queue
    unfold storedBy
    rw [history]
  refine ⟨tracked,?_,?_,?_⟩
  · rw [actors]
    exact atomic.kinds
  · intro other after there transient
    rw [commits] at there
    rw [stored]
    rcases whose bound there with ⟨rfl,rfl⟩|⟨-,old⟩
    · rw [moves.txn] at transient
      exact moves.lands (atomic.tracked.idle present) (atomic.lands other k present transient)
    · exact atomic.lands other after old transient
  · intro other queue beyond
    rw [commits,length_set] at beyond
    rw [stored]
    exact atomic.fresh other queue beyond

lemma storedBy_other {effects : List QueueEffect}
    (history : next.history = update s.history queue (s.history queue ++ effects))
    (none : effects.filterMap (QueueEffect.storedFor id) = []) : next.storedBy id = s.storedBy id := by
  funext other
  unfold storedBy
  rw [history]
  by_cases here : other = queue
  · subst here
    rw [update_self,filterMap_append,none,append_nil]
  · rw [update_of_ne here]

lemma caller_of_publisher {msg : QueueMsg} (publishes : msg.publisher = some id) : msg.caller = some id := by
  cases msg with
  | publish | publishReserved => exact publishes
  | _ => cases publishes

lemma lands_granted {send : Send} (ok : Bool)
    (asked : k.request id = some send) (other : send.2.publisher ≠ some id) (lands : k.Lands stored) :
    {k with answer := some ok}.Lands stored := by
  unfold request at asked
  split at asked
  next there =>
    unfold Commit.Lands at lands ⊢
    rw [there] at lands ⊢
    exact lands
  · cases asked
    exact absurd rfl other
  · cases asked

lemma Serves.confirmed (serves : s.Serves cfg next queue m letter reply) (atomic : s.Atomic)
    (present : s.commits[id]? = some k) (transient : k.txn.Transient) (mine : letter.msg.publisher = some id) :
    reply = some (id,true) ∧ {k with answer := some true}.Lands (next.storedBy id) := by
  obtain ⟨-,_,listed,asked,silent⟩ := serves.requested atomic.tracked (caller_of_publisher mine)
  cases present.symm.trans listed
  have lands := atomic.lands id k present transient
  unfold request at asked
  split at asked
  · injection asked with pair
    obtain ⟨-,shape⟩ := Prod.mk.inj pair
    rw [← shape] at mine
    cases mine
  next publish todo there =>
    injection asked with pair
    obtain ⟨here,shape⟩ := Prod.mk.inj pair
    unfold Commit.Lands at lands ⊢
    rw [there] at lands
    obtain ⟨done,all,-,kept⟩ := lands
    have kind := transient publish (by rw [all]; simp)
    rw [here,← atomic.kinds queue] at kind
    cases actor : s.actors queue with
    | durable | quorum =>
      rw [actor] at kind
      cases kind
    | transient q =>
      obtain ⟨stored,answers⟩ := turn_publishReserved
      rw [← actor,shape] at stored answers
      have replied : reply = some (id,true) := by
        rw [serves.answers] at answers
        cases reply <;> cases answers
        rfl
      refine ⟨replied,?_⟩
      rw [there]
      refine ⟨done,all,by simp,fun other => ?_⟩
      rw [if_pos rfl]
      unfold storedBy Txn.bodiesTo
      rw [serves.history,filter_append,map_append]
      have before := kept other
      rw [silent,if_neg (by simp)] at before
      unfold storedBy Txn.bodiesTo at before
      by_cases same : other = queue
      · subst same
        rw [update_self,filterMap_append,stored,before]
        simp [here]
      · rw [update_of_ne same,before]
        simp [here,Ne.symm same]
  · cases asked

lemma atomic_serve (serves : s.Serves cfg next queue m letter reply) (atomic : s.Atomic)
    (tracked : next.Tracked) : next.Atomic := by
  refine ⟨tracked,?_,?_,?_⟩
  · intro other
    by_cases here : other = queue
    · subst here
      rw [serves.actor,turn_kind]
      exact atomic.kinds other
    · rw [serves.turned.others other here]
      exact atomic.kinds other
  · intro id after there transient
    obtain ⟨k,present,change⟩ := answer_getElem? (serves.turned.commits ▸ there)
    have same : after.txn = k.txn := by
      rcases change with ⟨-,rfl⟩|⟨ok,-,rfl⟩ <;> rfl
    rw [same] at transient
    by_cases mine : letter.msg.publisher = some id
    · obtain ⟨rfl,lands⟩ := serves.confirmed atomic present transient mine
      rcases change with ⟨unanswered,-⟩|⟨ok,replied,rfl⟩
      · exact absurd rfl unanswered
      · cases replied
        exact lands
    have lands := atomic.lands id k present transient
    rw [storedBy_other serves.history (turn_storedFor mine)]
    rcases change with ⟨-,rfl⟩|⟨ok,rfl,rfl⟩
    · exact lands
    obtain ⟨-,_,listed,asked,-⟩ := serves.requested atomic.tracked serves.caller
    cases present.symm.trans listed
    exact lands_granted ok asked mine lands
  intro id other beyond
  rw [serves.turned.commits,answer_length] at beyond
  have foreign : letter.msg.publisher ≠ some id := by
    intro mine
    obtain ⟨-,_,present,-⟩ := serves.requested atomic.tracked (caller_of_publisher mine)
    rw [getElem?_eq_none beyond] at present
    cases present
  rw [storedBy_other serves.history (turn_storedFor foreign)]
  exact atomic.fresh id other beyond

lemma atomic_resolve {place : Nat} {result : Option Nat}
    (ok : s.step cfg (.resolve queue m place result) = some next) (atomic : s.Atomic) (tracked : next.Tracked) :
    next.Atomic := by
  obtain ⟨_,actor,_,resolved,-,turned,-,rfl⟩ := resolve_turned ok
  refine ⟨tracked,?_,?_,?_⟩
  · intro other
    change (update s.actors queue actor other).kind = other.kind
    by_cases here : other = queue
    · subst here
      rw [update_self,resolve_kind resolved]
      exact atomic.kinds other
    · rw [update_of_ne here]
      exact atomic.kinds other
  · intro id after there transient
    obtain ⟨_,present,change⟩ := answer_getElem? (turned.commits ▸ there)
    obtain ⟨_,here⟩ := atomic.tracked id
    rcases change with ⟨-,rfl⟩|⟨answer,rfl,rfl⟩
    · have elsewhere := atomic.posted present transient here queue
      have nobody : id ∉ (s.actors queue).stand.callers := by
        rw [← count_eq_zero,here.waits.underWay queue,if_neg elsewhere]
      rw [storedBy_other rfl (resolve_storedFor resolved nobody)]
      exact atomic.lands id _ present transient
    · obtain rfl := turned.settled here.waits (by intro same; cases same) rfl
      exact absurd rfl (atomic.posted present transient here queue)
  intro id other beyond
  rw [turned.commits,answer_length] at beyond
  obtain ⟨_,here⟩ := atomic.tracked id
  obtain rfl := here.absent (getElem?_eq_none beyond)
  have nobody : id ∉ (s.actors queue).stand.callers := by
    rw [← count_eq_zero,here.waits.underWay queue]
    rfl
  rw [storedBy_other rfl (resolve_storedFor resolved nobody)]
  exact atomic.fresh id other beyond

lemma atomic_step (atomic : s.Atomic) (ok : s.step cfg label = some next) : next.Atomic := by
  have tracked := tracked_step atomic.tracked ok
  cases label with
  | post =>
    simp only [step] at ok
    split at ok
    · cases ok
      exact ⟨tracked,atomic.kinds,atomic.lands,atomic.fresh⟩
    · cases ok
  | discharge =>
    cases ok
    refine ⟨tracked,atomic.kinds,?_,?_⟩
    · intro id k present transient
      rcases discharged present with old|⟨rfl,rfl⟩
      · exact atomic.lands id k old transient
      · exact fun queue => atomic.fresh _ queue le_rfl
    intro id queue beyond
    rw [length_append] at beyond
    exact atomic.fresh id queue (Nat.le_of_succ_le beyond)
  | advance =>
    obtain ⟨_,present,rest⟩ := bind_eq_some_iff.mp ok
    obtain ⟨⟨_,_⟩,advanced,same⟩ := map_eq_some_iff.mp rest
    cases same
    exact atomic_advance atomic present (advance_moves advanced) tracked
  | serve =>
    obtain ⟨_,_,serves⟩ := serve_serves ok
    exact atomic_serve serves atomic tracked
  | resolve => exact atomic_resolve ok atomic tracked

lemma Starts.atomic (starts : s.Starts) : s.Atomic := by
  refine ⟨starts.tracked,fun queue => (starts.fresh queue).2,?_,?_⟩
  · intro id k present
    rw [starts.commits] at present
    cases present
  intro id queue _
  rw [storedBy,starts.history]
  rfl

/-- What each transient queue has done since it was empty accounts for the messages it has. -/
def Accounted (cfg : QueueHandle → QueueConfig) (s : Exchange) : Prop :=
  ∀ queue q, s.actors queue = .transient q → TransientQueue.Turned (cfg queue).policy {} (s.history queue) q ∧ q.Sound

lemma turn_transient (cfg : QueueConfig) (m : Moment) (q : TransientQueue) (msg : QueueMsg) :
    (QueueActor.transient q).turn cfg m msg = (.transient (q.step cfg.policy m.live m.now m.later msg).1,
      (q.step cfg.policy m.live m.now m.later msg).2) := by
  unfold turn handle TransientQueue.step
  dsimp only
  rcases TransientQueue.handle cfg.policy m.now q msg with ⟨_,_,_ | _⟩ <;> rfl

lemma accounted_step (accounted : s.Accounted cfg) (ok : s.step cfg label = some next) : next.Accounted cfg := by
  cases label with
  | post =>
    simp only [step] at ok
    split at ok <;> cases ok
    exact accounted
  | discharge =>
    cases ok
    exact accounted
  | advance =>
    obtain ⟨_,-,rest⟩ := bind_eq_some_iff.mp ok
    obtain ⟨⟨_,_⟩,-,same⟩ := map_eq_some_iff.mp rest
    cases same
    obtain ⟨actors,-,history,-⟩ := sends_same _ _ _
    rw [Accounted,actors,history]
    exact accounted
  | serve queue m =>
    obtain ⟨letter,_,serves⟩ := serve_serves ok
    intro other q there
    rw [serves.history]
    by_cases here : other = queue
    · subst here
      rw [update_self]
      rw [serves.actor] at there
      have kind := congrArg QueueActor.kind there
      rw [turn_kind] at kind
      cases actor : s.actors other with
      | durable | quorum =>
        rw [actor] at kind
        cases kind
      | transient before =>
        rw [actor,turn_transient] at there
        rw [turn_transient]
        cases there
        obtain ⟨turned,sound⟩ := accounted other before actor
        have piece := TransientQueue.step_piece (cfg other).policy m.live m.now m.later before letter.msg sound
        exact ⟨turned.trans piece.turned,piece.sound⟩
    · rw [update_of_ne here]
      exact accounted other q ((serves.turned.others other here).symm.trans there)
  | resolve queue =>
    obtain ⟨_,actor,_,resolved,-,turned,-,rfl⟩ := resolve_turned ok
    intro other q there
    by_cases here : other = queue
    · subst here
      have same : actor = .transient q := by simpa [finish] using there
      have kind := resolve_kind resolved
      rw [same] at kind
      cases before : s.actors other with
      | durable | quorum =>
        rw [before] at kind
        cases kind
      | transient =>
        rw [before] at resolved
        cases resolved
    · simp only [finish,update_of_ne here] at there ⊢
      exact accounted other q there

lemma Starts.accounted (starts : s.Starts) : s.Accounted cfg := by
  intro queue q there
  have fresh := (starts.fresh queue).1
  rw [there] at fresh
  cases fresh
  rw [starts.history]
  exact ⟨TransientQueue.Turned.refl _ {},TransientQueue.sound_empty⟩

/-- The messages that a queue has stored for the commit. -/
def messagesBy (s : Exchange) (id : Nat) (queue : QueueHandle) : List (Nat × Bytes) :=
  ((s.history queue).filter fun effect => (effect.storedFor id).isSome).filterMap QueueEffect.storedMessage

lemma messagesBy_bodies (s : Exchange) (id : Nat) (queue : QueueHandle) :
    (s.messagesBy id queue).map Prod.snd = s.storedBy id queue := by
  rw [messagesBy,filterMap_filter,map_filterMap,storedBy]
  refine filterMap_congr fun effect _ => ?_
  cases effect with
  | stored msgId body ack => by_cases mine : callerOf ack = some id <;> simp [QueueEffect.storedFor,QueueEffect.storedMessage,mine]
  | _ => rfl

lemma messagesBy_sublist (s : Exchange) (id : Nat) (queue : QueueHandle) :
    (s.messagesBy id queue).Sublist ((s.history queue).filterMap QueueEffect.storedMessage) :=
  filter_sublist.filterMap _

def calls (id : Nat) (letter : Letter) : Bool := decide (letter.msg.caller = some id)

def ahead (s : Exchange) (id : Nat) (k : Commit) : Nat :=
  match k.request id,k.answer with
  | some send,none => (s.mailboxes send.1).findIdx (calls id) + 1
  | _,_ => 0

def rank (id : Nat) (s : Exchange) : Nat × Nat :=
  match s.commits[id]? with
  | some k => (k.weight,s.ahead id k)
  | none => (0,0)

def Attends (id : Nat) (s : Exchange) : Label → Prop
  | .advance other => other = id
  | .serve queue _ => ∃ letter ∈ s.mailboxes queue, letter.msg.caller = some id
  | _ => False

def Returned (id : Nat) (s : Exchange) : Prop :=
  ∃ k outcome, s.commits[id]? = some k ∧ k.phase = .returned outcome

private def Runs (id : Nat) (s : Exchange) : Prop :=
  s.Atomic ∧ ∃ k, s.commits[id]? = some k ∧ k.txn.Transient

lemma runs_step (runs : s.Runs id) (ok : s.step cfg label = some next) : next.Runs id := by
  obtain ⟨atomic,k,present,transient⟩ := runs
  refine ⟨atomic_step atomic ok,?_⟩
  have bound := (List.getElem?_eq_some_iff.mp present).1
  have answered : ∀ reply : Option (Nat × Bool), next.commits = reply.toList.foldl answer s.commits →
      ∃ k, next.commits[id]? = some k ∧ k.txn.Transient := by
    intro reply commits
    rw [commits]
    obtain ⟨after,there,change⟩ := answer_present present
    refine ⟨after,there,?_⟩
    rcases change with ⟨-,rfl⟩|⟨ok,-,rfl⟩ <;> exact transient
  cases label with
  | post =>
    simp only [step] at ok
    split at ok <;> cases ok
    exact ⟨k,present,transient⟩
  | discharge =>
    cases ok
    exact ⟨k,(getElem?_append_left bound).trans present,transient⟩
  | advance other =>
    obtain ⟨_,there,rest⟩ := bind_eq_some_iff.mp ok
    obtain ⟨⟨moved,_⟩,advanced,same⟩ := map_eq_some_iff.mp rest
    cases same
    rw [(sends_same _ _ _).2.1]
    by_cases mine : other = id
    · subst mine
      cases present.symm.trans there
      refine ⟨moved,getElem?_set_self bound,?_⟩
      rw [(Commit.advance_moves advanced).txn]
      exact transient
    · exact ⟨k,(getElem?_set_ne mine).trans present,transient⟩
  | serve =>
    obtain ⟨_,reply,serves⟩ := serve_serves ok
    exact answered reply serves.turned.commits
  | resolve =>
    obtain ⟨reply,_,_,-,-,turned,-⟩ := resolve_turned ok
    exact answered reply turned.commits

private lemma Runs.posted (runs : s.Runs id) (present : s.commits[id]? = some k) {send : Send}
    (asked : k.request id = some send) (silent : k.answer = none) :
    ∃ letter ∈ s.mailboxes send.1, letter.msg.caller = some id := by
  obtain ⟨atomic,other,same,transient⟩ := runs
  cases present.symm.trans same
  obtain ⟨place,here⟩ := atomic.tracked id
  have fits := here.fits k present
  cases place with
  | nowhere =>
    have both : k.answer.isSome = (k.request id).isSome := fits
    rw [silent,asked] at both
    cases both
  | actor queue => exact absurd rfl (atomic.posted present transient here queue)
  | mailbox queue =>
    obtain ⟨-,msg,requested,-⟩ := fits
    cases asked.symm.trans requested
    have one := here.waits.posted queue
    rw [if_pos rfl] at one
    have member : id ∈ callersIn (s.mailboxes queue) := count_pos_iff.mp (by omega)
    exact mem_filterMap.mp member

lemma ahead_extend (runs : s.Runs id) (present : s.commits[id]? = some k)
    (extend : ∀ queue, ∃ more, next.mailboxes queue = s.mailboxes queue ++ more) : next.ahead id k = s.ahead id k := by
  unfold ahead
  split
  next send asked silent =>
    obtain ⟨more,after⟩ := extend send.1
    obtain ⟨letter,member,calling⟩ := runs.posted present asked silent
    have inside : (s.mailboxes send.1).findIdx (calls id) < (s.mailboxes send.1).length :=
      findIdx_lt_length_of_exists ⟨letter,member,decide_eq_true calling⟩
    rw [after,findIdx_append,if_pos inside]
  · rfl

lemma sends_extend (sender : Option Nat) (sends : List Send) (s : Exchange) (queue : QueueHandle) :
    ∃ more, (sends.foldl (send sender) s).mailboxes queue = s.mailboxes queue ++ more := by
  induction sends generalizing s with
  | nil => exact ⟨[],(append_nil _).symm⟩
  | cons send sends ih =>
    obtain ⟨later,same⟩ := ih (s.send sender send)
    rw [foldl_cons,same]
    unfold Exchange.send
    by_cases here : queue = send.1
    · subst here
      exact ⟨⟨sender,send.2⟩::later,by simp⟩
    · exact ⟨later,by simp [update_of_ne here]⟩

lemma rank_eq (present : s.commits[id]? = some k) : s.rank id = (k.weight,s.ahead id k) := by
  rw [rank,present]

private def Lower : Nat × Nat → Nat × Nat → Prop := Prod.Lex (· < ·) (· < ·)

lemma rank_serve (serves : s.Serves cfg next queue m letter reply) (runs : s.Runs id) :
    next.rank id = s.rank id ∧ ¬ Attends id s (.serve queue m) ∨ Lower (next.rank id) (s.rank id) := by
  obtain ⟨atomic,k,present,transient⟩ := runs
  obtain ⟨rest,boxed,emptied⟩ := serves.turned.mailbox
  obtain ⟨after,there,change⟩ := answer_present present
  rw [← serves.turned.commits] at there
  rw [rank_eq present,rank_eq there]
  by_cases mine : letter.msg.caller = some id
  · obtain ⟨-,asker,listed,asked,silent⟩ := serves.requested atomic.tracked mine
    cases present.symm.trans listed
    have replied : reply.map Prod.fst = some id := by
      by_cases publishes : letter.msg.publisher = some id
      · rw [(serves.confirmed atomic present transient publishes).1]
        rfl
      by_contra unanswered
      have notReserve := serves.turned.later letter rfl (by rw [mine]; exact unanswered)
      cases shape : letter.msg with
      | reserve count reply => exact notReserve count reply shape
      | publish | publishReserved =>
        rw [shape] at mine publishes
        exact publishes mine
      | _ =>
        rw [shape] at mine
        cases mine
    rcases change with ⟨unanswered,-⟩|⟨ok,-,rfl⟩
    · exact absurd replied unanswered
    refine .inr (.right _ ?_)
    have before : s.ahead id k = (s.mailboxes queue).findIdx (calls id) + 1 := by
      rw [ahead,asked,silent]
    have now : next.ahead id {k with answer := some ok} = 0 := by
      rw [ahead]
      split <;> first | rfl | contradiction
    omega
  have same : after = k := by
    rcases change with ⟨-,same⟩|⟨ok,rfl,-⟩
    · exact same
    · exact absurd serves.caller mine
  subst same
  by_cases waiting : ∃ posted ∈ s.mailboxes queue, posted.msg.caller = some id
  · -- the request is in this mailbox, behind the letter
    obtain ⟨posted,member,calling⟩ := waiting
    obtain ⟨place,here⟩ := atomic.tracked id
    have place_eq : place = .mailbox queue := by
      have one := here.waits.posted queue
      have some : 0 < (callersIn (s.mailboxes queue)).count id :=
        count_pos_iff.mpr (mem_filterMap.mpr ⟨posted,member,calling⟩)
      by_contra elsewhere
      rw [if_neg elsewhere] at one
      omega
    subst place_eq
    obtain ⟨silent,msg,asked,-⟩ := here.fits after present
    have first : calls id letter = false := decide_eq_false mine
    have before : s.ahead id after = rest.findIdx (calls id) + 1 + 1 := by
      rw [ahead,asked,silent]
      dsimp only
      rw [boxed,toList_some,singleton_append,findIdx_cons,first]
      rfl
    have now : next.ahead id after = rest.findIdx (calls id) + 1 := by
      rw [ahead,asked,silent]
      dsimp only
      rw [emptied,update_self]
    refine .inr (.right _ ?_)
    omega
  refine .inl ⟨?_,waiting⟩
  have still : next.ahead id after = s.ahead id after := by
    unfold ahead
    split
    next send asked silent =>
      have apart : send.1 ≠ queue := by
        intro same
        obtain ⟨posted,member,calling⟩ := Runs.posted ⟨atomic,after,present,transient⟩ present asked silent
        exact waiting ⟨posted,same ▸ member,calling⟩
      rw [emptied,update_of_ne apart]
    · rfl
  rw [still]

lemma rank_step (runs : s.Runs id) (ok : s.step cfg label = some next) :
    next.rank id = s.rank id ∧ ¬ Attends id s label ∨ Lower (next.rank id) (s.rank id) := by
  have whole := runs
  obtain ⟨atomic,k,present,transient⟩ := runs
  have bound := (List.getElem?_eq_some_iff.mp present).1
  cases label with
  | post queue msg =>
    simp only [step] at ok
    split at ok <;> cases ok
    have there : (s.send none (queue,msg)).commits[id]? = some k := present
    have behind : (s.send none (queue,msg)).ahead id k = s.ahead id k :=
      ahead_extend whole present (sends_extend none [(queue,msg)] s)
    rw [rank_eq present,rank_eq there,behind]
    exact .inl ⟨rfl,fun never => never⟩
  | discharge txn =>
    cases ok
    have there : (s.commits ++ [.start txn])[id]? = some k := (getElem?_append_left bound).trans present
    rw [rank_eq present,rank_eq there]
    exact .inl ⟨rfl,fun never => never⟩
  | advance other =>
    obtain ⟨_,listed,rest⟩ := bind_eq_some_iff.mp ok
    obtain ⟨⟨moved,sends⟩,advanced,same⟩ := map_eq_some_iff.mp rest
    cases same
    have commits := (sends_same (some other) sends {s with commits := s.commits.set other moved}).2.1
    by_cases mine : other = id
    · subst mine
      cases present.symm.trans listed
      have there : (sends.foldl (Exchange.send (some other)) {s with commits := s.commits.set other moved}).commits[other]? =
          some moved := by
        rw [commits]
        exact getElem?_set_self bound
      rw [rank_eq present,rank_eq there]
      exact .inr (.left _ _ (Commit.advance_moves advanced).weight_lt)
    have there : (sends.foldl (Exchange.send (some other)) {s with commits := s.commits.set other moved}).commits[id]? =
        some k := by
      rw [commits]
      exact (getElem?_set_ne mine).trans present
    have behind : (sends.foldl (Exchange.send (some other)) {s with commits := s.commits.set other moved}).ahead id k =
        s.ahead id k := ahead_extend whole present
      (sends_extend (some other) sends {s with commits := s.commits.set other moved})
    rw [rank_eq present,rank_eq there,behind]
    exact .inl ⟨rfl,mine⟩
  | serve =>
    obtain ⟨_,_,serves⟩ := serve_serves ok
    exact rank_serve serves whole
  | resolve queue m place =>
    obtain ⟨reply,_,_,-,-,turned,-,rfl⟩ := resolve_turned ok
    obtain ⟨after,there,change⟩ := answer_present present
    rw [← turned.commits] at there
    have same : after = k := by
      rcases change with ⟨-,same⟩|⟨answer,rfl,-⟩
      · exact same
      obtain ⟨_,here⟩ := atomic.tracked id
      obtain rfl := turned.settled here.waits (by intro same; cases same) rfl
      exact absurd rfl (atomic.posted present transient here queue)
    subst same
    rw [rank_eq present,rank_eq there]
    exact .inl ⟨rfl,fun never => never⟩

lemma Runs.goesOn (runs : s.Runs id) (unfinished : ¬ s.Returned id) :
    ∃ label next, Attends id s label ∧ s.step cfg label = some next := by
  obtain ⟨atomic,k,present,transient⟩ := runs
  obtain ⟨place,here⟩ := atomic.tracked id
  have fits := here.fits k present
  cases place with
  | actor queue => exact absurd rfl (atomic.posted present transient here queue)
  | mailbox queue =>
    have one := here.waits.posted queue
    rw [if_pos rfl] at one
    obtain ⟨letter,member,calling⟩ := mem_filterMap.mp (count_pos_iff.mp (Nat.lt_of_lt_of_eq Nat.one_pos one.symm))
    cases boxed : s.mailboxes queue with
    | nil =>
      rw [boxed] at member
      cases member
    | cons =>
      obtain ⟨next,taken⟩ : ∃ next, s.step cfg (.serve queue .quiet) = some next := by
        simp only [step,boxed]
        exact ⟨_,rfl⟩
      exact ⟨.serve queue .quiet,next,⟨letter,member,calling⟩,taken⟩
  | nowhere =>
    have both : k.answer.isSome = (k.request id).isSome := fits
    obtain ⟨⟨moved,sends⟩,advanced⟩ : ∃ result, k.advance id = some result := by
      rw [← isSome_iff_exists]
      unfold advance
      unfold request at both
      split
      · rfl
      · rfl
      next there =>
        rw [there] at both
        rw [isSome_map]
        exact both
      · rfl
      · rfl
      next there =>
        rw [there] at both
        rw [isSome_map]
        exact both
      · rfl
      · rfl
      next outcome there =>
        exact absurd ⟨k,outcome,present,there⟩ unfinished
    obtain ⟨next,taken⟩ : ∃ next, s.step cfg (.advance id) = some next := by
      simp only [step,present,bind_some,advanced,map_some]
      exact ⟨_,rfl⟩
    exact ⟨.advance id,next,rfl,taken⟩

end Exchange

open Exchange

/-- All or nothing, and an end: once it has returned, the commit is complete and every queue has stored
its bodies in order, or it is rolled back and no queue has stored one. What a queue has stored for it are messages that
are ready there, held or ended, each once. The commit can always go on until it has returned, and it returns on every
endless run that attends to it. -/
structure CommitAtomic (cfg : QueueHandle → QueueConfig) (s : Exchange) (id : Nat) (k : Commit) : Prop where
  outcome : ∀ outcome, k.phase = .returned outcome →
    outcome = .complete ∧ (∀ queue, s.storedBy id queue = Txn.bodiesTo queue k.txn.publishes) ∨
    outcome = .rolledBack ∧ ∀ queue, s.storedBy id queue = []
  kept : ∀ queue, queue.kind = .transient → ∃ q, s.actors queue = .transient q ∧
    (s.messagesBy id queue).map Prod.snd = s.storedBy id queue ∧ ((s.messagesBy id queue).map Prod.fst).Nodup ∧
    ∀ message ∈ s.messagesBy id queue, (q.ready.map Stored.message).count message +
      (q.unacked.toList.map (fun entry => entry.2.1.message)).count message +
      ((s.history queue).filterMap QueueEffect.endedMessage).count message = 1
  goesOn : ¬ s.Returned id → ∃ label next, Attends id s label ∧ s.step cfg label = some next
  returns : ∀ states labels, states 0 = s → Transition.Follows (step cfg) states labels →
    Transition.Fair (Attends id) (Returned id) states labels → ∃ i, (states i).Returned id

theorem transient_commit_atomic (cfg : QueueHandle → QueueConfig) (s final : Exchange) (labels : List Label)
    (starts : s.Starts) (ok : run (step cfg) s labels = some final) (id : Nat) (k : Commit)
    (present : final.commits[id]? = some k) (transient : k.txn.Transient) : CommitAtomic cfg final id k := by
  have atomic : final.Atomic := run_invariant_all atomic_step starts.atomic ok
  have runs : final.Runs id := ⟨atomic,k,present,transient⟩
  refine ⟨?_,?_,runs.goesOn,?_⟩
  · intro outcome there
    have lands := atomic.lands id k present transient
    unfold Commit.Lands at lands
    rw [there] at lands
    exact lands
  · intro queue kind
    rw [← atomic.kinds queue] at kind
    cases actor : final.actors queue with
    | durable | quorum =>
      rw [actor] at kind
      cases kind
    | transient q =>
      have accounted : final.Accounted cfg := run_invariant_all accounted_step starts.accounted ok
      obtain ⟨fresh,once⟩ := (accounted queue q actor).1.once
      have among := final.messagesBy_sublist id queue
      refine ⟨q,rfl,final.messagesBy_bodies id queue,fresh.sublist (among.map _),?_⟩
      exact fun message member => once message (among.subset member)
  intro states later start follows fair
  have founded : WellFounded Lower := (Prod.lex Nat.lt_wfRel Nat.lt_wfRel).wf
  refine eventually (rank id) (Runs id) founded ?_ ?_ ?_ follows fair ?_
  · exact fun _ _ _ runs taken => runs_step runs taken
  · exact fun _ _ _ runs _ taken => .inr ((rank_step runs taken).imp (fun same => same.1) (fun lower => lower))
  · intro state label next runs _ attends taken
    rcases rank_step runs taken with ⟨-,idle⟩|lower
    · exact absurd attends idle
    · exact .inr lower
  · rw [start]
    exact runs

def twoPlaces : QueueHandle → QueueConfig := fun _ => ⟨⟨none,2,1000,false,none,none,false⟩,0⟩

def crowdedCommit : List Label :=
  [.discharge ⟨[⟨queueX,[1]⟩,⟨queueX,[2]⟩],[],false⟩,.advance 0,.serve queueX .quiet,.post queueX (.publish [3] none),
    .serve queueX .quiet,.advance 0,.advance 0,.advance 0,.serve queueX .quiet,.advance 0,.advance 0,
    .serve queueX .quiet,.advance 0,.advance 0,.advance 0]

theorem transient_commit_atomic_crowded : ∃ s k, run (step twoPlaces) .empty crowdedCommit = some s ∧
    s.commits[0]? = some k ∧ (k.phase = .returned .complete ∧ s.storedBy 0 queueX = [[1],[2]]) ∧
    CommitAtomic twoPlaces s 0 k := by
  obtain ⟨s,ok,commits,stored⟩ : ∃ s, run (step twoPlaces) .empty crowdedCommit = some s ∧
      (s.commits = [⟨⟨[⟨queueX,[1]⟩,⟨queueX,[2]⟩],[],false⟩,.returned .complete,none⟩] ∧
        s.storedBy 0 queueX = [[1],[2]]) :=
    reaches_of_any (by decide)
  have present : s.commits[0]? = some ⟨⟨[⟨queueX,[1]⟩,⟨queueX,[2]⟩],[],false⟩,.returned .complete,none⟩ := by
    rw [commits]
    rfl
  refine ⟨s,_,ok,present,⟨rfl,stored⟩,?_⟩
  refine transient_commit_atomic twoPlaces .empty s crowdedCommit empty_starts ok 0 _ present ?_
  intro publish member
  simp only [mem_cons,not_mem_nil,or_false] at member
  rcases member with rfl|rfl <;> rfl

end Ramqp
