import Ramqp.Semantics.QueueGroup
import Ramqp.Segments

/-! What a queue group's replicas agree on, and that the state machine with its spilled bodies refines it. -/
namespace Ramqp

open Std Function Std.ExtTreeMap ReplicatedMessage Entries

structure Message where
  failures : UInt32
  enqueuedMs : Nat
  body : Bytes

structure Contents where
  nextMsgId : Nat := 0
  messages : Nat → Option Message := fun _ => none

def Contents.apply (c : Contents) : QueueCommand → Contents × QueueResponse
  | .enqueue body enqueuedMs =>
    let msgId := c.nextMsgId + 1
    (⟨msgId,update c.messages msgId (some ⟨0,enqueuedMs,body⟩)⟩,.enqueued msgId)
  | .settle msgId requeue => match c.messages msgId with
    | none => (c,.notFound)
    | some m =>
      let after := if requeue then some {m with failures := m.failures + 1} else none
      ({c with messages := update c.messages msgId after},.settled)

def QueueCommand.Short : QueueCommand → Prop
  | .enqueue body _ => body.length < 2^32
  | .settle _ _ => True

def ReplicatedMessage.refersTo (segment : Nat) (m : ReplicatedMessage) : Bool :=
  m.body.ref?.any fun r => r.segment == segment

def refsTo (messages : Map Nat ReplicatedMessage) (segment : Nat) : Nat :=
  messages.toList.countP fun entry => entry.2.refersTo segment

section Refs

variable {messages : Map Nat ReplicatedMessage} {msgId : Nat} {m : ReplicatedMessage}

lemma refsTo_erase (there : messages[msgId]? = some m) (segment : Nat) :
    refsTo messages segment = refsTo (messages.erase msgId) segment + if m.refersTo segment then 1 else 0 := by
  unfold refsTo
  rw [(toList_erase_perm there).countP_eq,List.countP_cons]

lemma refsTo_erase_le (messages : Map Nat ReplicatedMessage) (msgId segment : Nat) :
    refsTo (messages.erase msgId) segment ≤ refsTo messages segment := by
  cases there : messages[msgId]? with
  | none =>
    have same : messages.erase msgId = messages := by
      apply ext_getElem?
      intro other
      rw [Entries.getElem?_erase]
      split
      next here =>
        rw [← here,there]
      · rfl
    rw [same]
  | some =>
    rw [refsTo_erase there]
    exact Nat.le_add_right _ _

lemma refsTo_insert (messages : Map Nat ReplicatedMessage) (msgId : Nat) (m : ReplicatedMessage) (segment : Nat) :
    refsTo (messages.insert msgId m) segment =
      refsTo (messages.erase msgId) segment + if m.refersTo segment then 1 else 0 := by
  have same : (messages.insert msgId m).erase msgId = messages.erase msgId := by
    apply ext_getElem?
    intro other
    rw [Entries.getElem?_erase,Entries.getElem?_erase,Entries.getElem?_insert]
    split <;> rfl
  rw [refsTo_erase getElem?_insert_self,same]

lemma refsTo_pos (there : messages[msgId]? = some m) {r : SpillRef} (spilled : m.body = .spilled r) :
    0 < refsTo messages r.segment := by
  have refers : m.refersTo r.segment = true := by
    unfold refersTo
    rw [spilled]
    exact beq_self_eq_true _
  rw [refsTo_erase there,if_pos refers]
  exact Nat.succ_pos _

lemma refersTo_resident {bytes : Bytes} (resident : m.body = .resident bytes) (segment : Nat) :
    m.refersTo segment = false := by
  unfold refersTo
  rw [resident]
  rfl

lemma refersTo_spilled {r : SpillRef} (spilled : m.body = .spilled r) (segment : Nat) :
    m.refersTo segment = (r.segment == segment) := by
  unfold refersTo
  rw [spilled]
  rfl

end Refs

namespace QueueState

variable {s t : QueueState} {c : Contents}

variable {v : Option Message} {id : Nat}

variable {stored : StoredBody} {body : Bytes} {fault : AppendFault} {response : QueueResponse}

structure Sound (s : QueueState) : Prop where
  spill : ∀ paging, s.paging = some paging → paging.spill.Sound
  counted : ∀ paging, s.paging = some paging → ∀ id, refsTo s.messages id ≤ paging.spill.liveOf id

def Stores (s : QueueState) : StoredBody → Bytes → Prop
  | .resident bytes,body => bytes = body
  | .spilled r,body => ∃ paging, s.paging = some paging ∧ paging.spill.Holds r body

def Matches (s : QueueState) : Option ReplicatedMessage → Option Message → Prop
  | none,none => True
  | some m,some v => m.failures = v.failures ∧ m.enqueuedMs = v.enqueuedMs ∧ s.Stores m.body v.body
  | _,_ => False

structure Represents (s : QueueState) (c : Contents) : Prop where
  next : s.nextMsgId = c.nextMsgId
  messages : ∀ id : Nat, s.Matches s.messages[id]? (c.messages id)

lemma Stores.fetch (sound : ∀ paging, s.paging = some paging → paging.spill.Sound) (stores : s.Stores stored body) :
    s.fetch stored = some body := by
  cases stored with
  | resident => exact congrArg some stores
  | spilled =>
    obtain ⟨paging,paged,held⟩ := stores
    change s.paging.bind _ = _
    rw [paged]
    exact held.read (sound paging paged)

/-- How a state's paging moves on: with the same budget, and bodies lost with their segments only. -/
inductive Moves : Option QueuePaging → Option QueuePaging → Prop
  | unpaged : Moves none none
  | paged {p q : QueuePaging} (budget : q.residentMaxBytes = p.residentMaxBytes) (moves : Spill.Moves p.spill q.spill) :
      Moves (some p) (some q)

lemma Stores.later (moves : Moves s.paging t.paging)
    (has : ∀ q r, t.paging = some q → stored = .spilled r → q.spill.Has r.segment) (stores : s.Stores stored body) :
    t.Stores stored body := by
  cases stored with
  | resident => exact stores
  | spilled r =>
    obtain ⟨paging,paged,held⟩ := stores
    rw [paged] at moves
    generalize there : t.paging = after at moves
    cases moves with
    | paged budget moves =>
      exact ⟨_,there,moves.2.holds r body held (has _ r there rfl)⟩

variable {m : Option ReplicatedMessage}

lemma Matches.later (moves : Moves s.paging t.paging)
    (has : ∀ q r found, t.paging = some q → m = some found → found.body = .spilled r → q.spill.Has r.segment)
    (matched : s.Matches m v) : t.Matches m v := by
  cases m with
  | none =>
    cases v with
    | none => trivial
    | some => exact matched
  | some m =>
    cases v with
    | none => exact matched
    | some =>
      obtain ⟨failures,ms,stores⟩ := matched
      exact ⟨failures,ms,stores.later moves fun q r paged spilled => has q r m paged rfl spilled⟩

structure Stored (s t : QueueState) (body : Bytes) (stored : StoredBody) : Prop where
  next : t.nextMsgId = s.nextMsgId
  messages : t.messages = s.messages
  paging : s.paging = none ∧ t.paging = none ∧ stored = .resident body ∨
    ∃ p q, s.paging = some p ∧ t.paging = some q ∧ q.residentMaxBytes = p.residentMaxBytes ∧
      p.spill.Appended q.spill body stored.ref? ∧ (stored.ref? = none → stored = .resident body)

lemma storeBody_stored (sound : ∀ paging, s.paging = some paging → paging.spill.Sound)
    (ok : s.storeBody fault body = some (t,stored)) : Stored s t body stored := by
  unfold storeBody at ok
  split at ok
  next unpaged =>
    cases ok
    exact ⟨rfl,rfl,Or.inl ⟨unpaged,unpaged,rfl⟩⟩
  rename_i paging paged
  have spillSound := sound paging paged
  split at ok
  · cases ok
    refine ⟨rfl,rfl,Or.inr ⟨paging,paging,paged,paged,rfl,?_,fun _ => rfl⟩⟩
    exact ⟨Spill.Moves.refl spillSound,fun id => rfl,nofun,fun id has _ => has,fun id at_ => Or.inl at_⟩
  split at ok
  · cases ok
  next appended =>
    cases ok
    exact ⟨rfl,rfl,Or.inr ⟨paging,_,paged,rfl,rfl,Spill.append_appended spillSound appended,nofun⟩⟩
  rename_i appended
  cases ok
  exact ⟨rfl,rfl,Or.inr ⟨paging,_,paged,rfl,rfl,Spill.append_appended spillSound appended,fun _ => rfl⟩⟩

lemma Stored.moves (result : Stored s t body stored) : Moves s.paging t.paging := by
  rcases result.paging with ⟨before,after,-⟩|⟨p,q,before,after,budget,appended,-⟩
  · rw [before,after]
    exact .unpaged
  · rw [before,after]
    exact .paged budget appended.moves

lemma Stored.stores (result : Stored s t body stored) (short : body.length < 2^32) : t.Stores stored body := by
  rcases result.paging with ⟨-,-,rfl⟩|⟨p,q,-,after,-,appended,resident⟩
  · rfl
  cases stored with
  | resident =>
    cases resident rfl
    rfl
  | spilled r => exact ⟨q,after,appended.holds r rfl short⟩

lemma Stored.live (result : Stored s t body stored) {q : QueuePaging} (after : t.paging = some q) :
    ∃ p, s.paging = some p ∧
      ∀ id, q.spill.liveOf id = p.spill.liveOf id + if stored.ref?.map SpillRef.segment = some id then 1 else 0 := by
  rcases result.paging with ⟨-,absent,-⟩|⟨p,q',before,after',-,appended,-⟩
  · cases absent.symm.trans after
  · cases after'.symm.trans after
    exact ⟨p,before,appended.live⟩

lemma Stores.withMessages (paging : t.paging = s.paging) (stores : s.Stores stored body) : t.Stores stored body := by
  cases stored with
  | resident => exact stores
  | spilled =>
    obtain ⟨p,paged,held⟩ := stores
    exact ⟨p,paging.trans paged,held⟩

lemma Matches.withMessages (paging : t.paging = s.paging) (matched : s.Matches m v) : t.Matches m v := by
  cases m with
  | none => cases v <;> exact matched
  | some =>
    cases v with
    | none => exact matched
    | some => exact ⟨matched.1,matched.2.1,matched.2.2.withMessages paging⟩

lemma Represents.absent (represents : s.Represents c) (absent : s.messages[id]? = none) : c.messages id = none := by
  have matched := represents.messages id
  rw [absent] at matched
  cases there : c.messages id with
  | none => rfl
  | some =>
    rw [there] at matched
    exact matched.elim

lemma Represents.present (represents : s.Represents c) {m : ReplicatedMessage}
    (present : s.messages[id]? = some m) :
    ∃ v, c.messages id = some v ∧ m.failures = v.failures ∧ m.enqueuedMs = v.enqueuedMs ∧ s.Stores m.body v.body := by
  have matched := represents.messages id
  rw [present] at matched
  cases there : c.messages id with
  | none =>
    rw [there] at matched
    exact matched.elim
  | some v =>
    rw [there] at matched
    exact ⟨v,rfl,matched⟩

lemma Moves.refl (sound : s.Sound) : Moves s.paging s.paging := by
  cases paged : s.paging with
  | none => exact .unpaged
  | some paging => exact .paged rfl (Spill.Moves.refl (sound.spill paging paged))

structure Applied (s t : QueueState) (after : Contents) : Prop where
  sound : t.Sound
  represents : t.Represents after
  moves : Moves s.paging t.paging

lemma refersTo_iff (m : ReplicatedMessage) (segment : Nat) :
    m.refersTo segment = true ↔ m.body.ref?.map SpillRef.segment = some segment := by
  unfold refersTo
  cases m.body.ref? with
  | none | some => simp

lemma enqueue_applied {enqueuedMs : Nat} (sound : s.Sound) (represents : s.Represents c)
    (short : body.length < 2^32) (ok : s.apply fault (.enqueue body enqueuedMs) = some (t,response)) :
    Applied s t (c.apply (.enqueue body enqueuedMs)).1 ∧ response = (c.apply (.enqueue body enqueuedMs)).2 := by
  unfold apply at ok
  dsimp only at ok
  split at ok
  · cases ok
  rename_i u stored taken
  cases ok
  have result := storeBody_stored (s := {s with nextMsgId := s.nextMsgId + 1}) sound.spill taken
  have moves : Moves s.paging u.paging := result.moves
  have kept : u.messages = s.messages := result.messages
  refine ⟨⟨⟨?_,?_⟩,⟨?_,?_⟩,moves⟩,?_⟩
  · intro q after
    obtain ⟨p,q',-,there,-,appended,-⟩ : ∃ p q', s.paging = some p ∧ u.paging = some q' ∧ _ ∧
        p.spill.Appended q'.spill body stored.ref? ∧ _ := by
      rcases result.paging with ⟨-,absent,-⟩|paged
      · cases absent.symm.trans after
      · exact paged
    cases there.symm.trans after
    exact appended.moves.1
  · intro q after id
    obtain ⟨p,before,live⟩ := result.live after
    have counted := sound.counted p before id
    have fewer := refsTo_erase_le s.messages (s.nextMsgId + 1) id
    rw [live id,kept,result.next,refsTo_insert]
    simp only [refersTo_iff]
    exact Nat.add_le_add_right (fewer.trans counted) _
  · change u.nextMsgId = c.nextMsgId + 1
    rw [result.next,← represents.next]
  · intro id
    change Matches _ (u.messages.insert (s.nextMsgId + 1) ⟨stored,0,enqueuedMs⟩)[id]?
      (update c.messages (c.nextMsgId + 1) (some ⟨0,enqueuedMs,body⟩) id)
    rw [Entries.getElem?_insert,← represents.next,kept]
    split
    next same =>
      subst same
      rw [update_self]
      exact ⟨rfl,rfl,(result.stores short).withMessages rfl⟩
    rename_i apart
    rw [update_of_ne (Ne.symm apart)]
    refine (represents.messages id).later moves ?_
    intro q r found after there spilled
    obtain ⟨p,before,live⟩ := result.live after
    refine Spill.Has.of_liveOf ?_
    rw [live r.segment]
    have pos := refsTo_pos there spilled
    exact Nat.lt_of_lt_of_le pos ((sound.counted p before r.segment).trans (Nat.le_add_right _ _))
  · rw [represents.next]
    rfl

variable {msgId : Nat}

lemma requeue_applied (sound : s.Sound) (represents : s.Represents c)
    (ok : s.apply fault (.settle msgId true) = some (t,response)) :
    Applied s t (c.apply (.settle msgId true)).1 ∧ response = (c.apply (.settle msgId true)).2 := by
  unfold apply at ok
  unfold Contents.apply
  dsimp only at ok ⊢
  split at ok
  next m there =>
    cases ok
    obtain ⟨v,listed,failures,ms,stores⟩ := represents.present there
    rw [listed]
    refine ⟨⟨⟨sound.spill,?_⟩,⟨represents.next,?_⟩,Moves.refl sound⟩,rfl⟩
    · intro p before id
      refine Nat.le_trans ?_ (sound.counted p before id)
      rw [refsTo_insert,refsTo_erase there]
      exact le_rfl
    intro id
    change Matches _ (s.messages.insert msgId {m with failures := m.failures + 1})[id]?
      (update c.messages msgId (some {v with failures := v.failures + 1}) id)
    rw [Entries.getElem?_insert]
    split
    next same =>
      subst same
      rw [update_self]
      exact ⟨by rw [failures],ms,stores.withMessages rfl⟩
    rename_i apart
    rw [update_of_ne (Ne.symm apart)]
    exact (represents.messages id).withMessages rfl
  next absent =>
    cases ok
    rw [represents.absent absent]
    exact ⟨⟨sound,represents,Moves.refl sound⟩,rfl⟩

lemma dropBody_spec (sound : s.Sound) {m : ReplicatedMessage} (there : s.messages[msgId]? = some m) :
    let t := dropBody {s with messages := s.messages.erase msgId} m.body
    t.nextMsgId = s.nextMsgId ∧ t.messages = s.messages.erase msgId ∧ t.Sound ∧ Moves s.paging t.paging := by
  have counted := fun p before id => (refsTo_erase there id).symm.trans_le (sound.counted p before id)
  cases spilled : m.body with
  | resident =>
    refine ⟨rfl,rfl,⟨sound.spill,?_⟩,Moves.refl sound⟩
    intro p before id
    exact (Nat.le_add_right _ _).trans (counted p before id)
  | spilled r =>
    have paging : (dropBody {s with messages := s.messages.erase msgId} (.spilled r)).paging =
        s.paging.map fun p => {p with spill := p.spill.release r} := rfl
    refine ⟨rfl,rfl,⟨?_,?_⟩,?_⟩
    · intro q after
      obtain ⟨p,before,rfl⟩ := Option.map_eq_some_iff.mp after
      exact (Spill.release_moves (sound.spill p before) r).1
    · intro q after id
      obtain ⟨p,before,rfl⟩ := Option.map_eq_some_iff.mp after
      have here := counted p before id
      rw [refersTo_spilled spilled] at here
      change refsTo (s.messages.erase msgId) id ≤ (p.spill.release r).liveOf id
      rw [Spill.release_liveOf]
      simp only [beq_iff_eq] at here
      omega
    · cases before : s.paging with
      | none => exact .unpaged
      | some p => exact .paged rfl (Spill.release_moves (sound.spill p before) r)

lemma remove_applied (sound : s.Sound) (represents : s.Represents c)
    (ok : s.apply fault (.settle msgId false) = some (t,response)) :
    Applied s t (c.apply (.settle msgId false)).1 ∧ response = (c.apply (.settle msgId false)).2 := by
  unfold apply at ok
  unfold Contents.apply
  dsimp only at ok ⊢
  split at ok
  next there =>
    cases ok
    obtain ⟨_,listed,-⟩ := represents.present there
    rw [listed]
    obtain ⟨next,messages,dropped,moves⟩ := dropBody_spec sound there
    refine ⟨⟨dropped,⟨next.trans represents.next,?_⟩,moves⟩,rfl⟩
    intro id
    change Matches _ _ (update c.messages msgId none id)
    rw [messages,Entries.getElem?_erase]
    split
    next same =>
      subst same
      rw [update_self]
      trivial
    rename_i apart
    rw [update_of_ne (Ne.symm apart)]
    refine (represents.messages id).later moves ?_
    intro q r found after present spilled
    have remains : (s.messages.erase msgId)[id]? = some found := by
      rw [Entries.getElem?_erase,if_neg apart]
      exact present
    refine Spill.Has.of_liveOf (Nat.lt_of_lt_of_le (refsTo_pos remains spilled) ?_)
    have counted := dropped.counted q after r.segment
    rw [messages] at counted
    exact counted
  next absent =>
    cases ok
    rw [represents.absent absent]
    exact ⟨⟨sound,represents,Moves.refl sound⟩,rfl⟩

lemma apply_applied {command : QueueCommand} (sound : s.Sound) (represents : s.Represents c)
    (short : command.Short) (ok : s.apply fault command = some (t,response)) :
    Applied s t (c.apply command).1 ∧ response = (c.apply command).2 := by
  cases command with
  | enqueue => exact enqueue_applied sound represents short ok
  | settle msgId requeue =>
    cases requeue with
    | true => exact requeue_applied sound represents ok
    | false => exact remove_applied sound represents ok

lemma withSpill_applied {f : Spill → Spill} {paging : QueuePaging} (paged : s.paging = some paging)
    (sound : s.Sound) (represents : s.Represents c) (moves : Spill.Moves paging.spill (f paging.spill))
    (live : ∀ id, (f paging.spill).liveOf id = paging.spill.liveOf id) :
    (s.withSpill f).paging = some {paging with spill := f paging.spill} ∧ s.Applied (s.withSpill f) c := by
  have after : (s.withSpill f).paging = some {paging with spill := f paging.spill} := by
    unfold withSpill
    rw [paged]
    rfl
  have moved : Moves s.paging (s.withSpill f).paging := by
    rw [after,paged]
    exact .paged rfl moves
  have counted : ∀ id, refsTo s.messages id ≤ (f paging.spill).liveOf id := by
    intro id
    rw [live id]
    exact sound.counted paging paged id
  refine ⟨after,⟨?_,?_⟩,⟨represents.next,?_⟩,moved⟩
  · intro q there
    cases after.symm.trans there
    exact moves.1
  · intro q there id
    cases after.symm.trans there
    exact counted id
  intro id
  refine (represents.messages id).later moved ?_
  intro q r found there present spilled
  cases after.symm.trans there
  exact Spill.Has.of_liveOf (Nat.lt_of_lt_of_le (refsTo_pos present spilled) (counted r.segment))

def Ready (s : QueueState) : Prop := ∀ paging, s.paging = some paging → paging.spill.Ready

lemma storeBody_ready (sound : ∀ paging, s.paging = some paging → paging.spill.Sound) (ready : s.Ready)
    (body : Bytes) : ∃ t stored, s.storeBody .none body = some (t,stored) ∧ t.Ready := by
  unfold storeBody
  cases paged : s.paging with
  | none => exact ⟨_,_,rfl,ready⟩
  | some paging =>
    dsimp only
    split
    · exact ⟨_,_,rfl,ready⟩
    obtain ⟨_,_,ok,after⟩ := Spill.append_ready (sound paging paged) (ready paging paged) body
    rw [ok]
    refine ⟨_,_,rfl,?_⟩
    rintro q ⟨⟩
    exact after

lemma apply_ready (sound : s.Sound) (ready : s.Ready) (command : QueueCommand) :
    ∃ t response, s.apply .none command = some (t,response) ∧ t.Ready := by
  cases command with
  | enqueue body =>
    obtain ⟨_,_,ok,after⟩ := storeBody_ready (s := {s with nextMsgId := s.nextMsgId + 1}) sound.spill ready body
    unfold apply
    simp only [ok]
    exact ⟨_,_,rfl,after⟩
  | settle msgId requeue =>
    cases requeue with
    | true =>
      unfold apply
      dsimp only
      cases s.messages[msgId]? with
      | none => exact ⟨s,_,rfl,ready⟩
      | some => exact ⟨_,_,rfl,ready⟩
    | false =>
      unfold apply
      dsimp only
      cases s.messages[msgId]? with
      | none => exact ⟨s,_,rfl,ready⟩
      | some m =>
        refine ⟨_,_,rfl,?_⟩
        cases m.body with
        | resident => exact ready
        | spilled r =>
          intro q after
          obtain ⟨p,before,rfl⟩ := Option.map_eq_some_iff.mp after
          exact Spill.release_ready (ready p before) r

end QueueState

end Ramqp
