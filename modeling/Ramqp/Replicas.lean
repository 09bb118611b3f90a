import Ramqp.Snapshots

/-! Two replicas of a queue group that page differently hold the same contents and give the same answers. -/
namespace Ramqp

open Std List Option Function Std.ExtTreeMap Spill Entries

section Appending

namespace Spill

variable {s t : Spill}

/-- The append reclaims the current segment as it rolls over, and then cannot create the next one: the store is left
with a current segment that is gone. -/
def strands (fault : AppendFault) (s : Spill) : Bool :=
  match fault with
  | .create => s.needsRoll == some true && s.pins == 0 && s.current.any s.isDrained
  | _ => false

lemma write_safe {id : Nat} (sound : s.Sound) (current : s.current = some id) (has : s.Has id)
    (fault : AppendFault) (body : Bytes) : ∃ t r, s.write fault body = some (t,r) ∧ t.Ready := by
  obtain ⟨segment,there⟩ := isSome_iff_exists.mp has
  obtain ⟨_,file,-⟩ := sound.file id segment there
  obtain ⟨t,r,ok,same⟩ : ∃ t r, s.write fault body = some (t,r) ∧ t.current = s.current := by
    unfold write
    simp only [current,there,file]
    cases fault <;> exact ⟨_,_,rfl,rfl⟩
  refine ⟨t,r,ok,?_⟩
  intro other at_
  cases (same.trans current).symm.trans at_
  exact write_has has ok

lemma roll_safe (fault : AppendFault) (able : fault ≠ .create) :
    ∃ u id, s.roll fault = (u,true) ∧ u.current = some id ∧ u.Has id := by
  have has : ∀ u : Spill, ∀ id, {u with segments := u.segments.insert id ⟨0,0⟩,current := some id}.Has id := by
    intro u id
    unfold Has
    rw [Entries.getElem?_insert,if_pos rfl]
    rfl
  cases fault with
  | create => exact absurd rfl able
  | none | write => exact ⟨_,_,rfl,rfl,has _ _⟩

lemma append_safe (sound : s.Sound) (ready : s.Ready) {fault : AppendFault} (safe : s.strands fault = false)
    (body : Bytes) : ∃ t r, s.append fault body = some (t,r) ∧ t.Ready := by
  obtain ⟨rolls,needs⟩ : ∃ rolls, s.needsRoll = some rolls := by
    unfold needsRoll
    cases current : s.current with
    | none => exact ⟨true,rfl⟩
    | some id =>
      obtain ⟨_,there⟩ := isSome_iff_exists.mp (ready id current)
      simp only [there]
      exact ⟨_,rfl⟩
  unfold append
  rw [needs]
  cases rolls with
  | false =>
    cases current : s.current with
    | none =>
      unfold needsRoll at needs
      rw [current] at needs
      cases needs
    | some id => exact write_safe sound current (ready id current) fault body
  | true =>
    by_cases creates : fault = .create
    · subst creates
      refine ⟨_,none,rfl,?_⟩
      intro id current
      rw [retire_current] at current
      have kept : s.isDrained id = true → 0 < s.pins := by
        intro drained
        refine Nat.pos_of_ne_zero fun zero => ?_
        simp [strands,needs,zero,current,drained] at safe
      unfold retire
      simp only [current]
      split
      next drained =>
        unfold reclaim
        rw [if_pos (kept drained)]
        exact ready id current
      · exact ready id current
    obtain ⟨_,_,rolled,current,has⟩ := roll_safe (s := s) fault creates
    have moves := roll_moves sound fault
    rw [rolled] at moves
    simp only [rolled]
    exact write_safe moves.1 current has fault body

end Spill

end Appending

section Accounting

variable {messages : Map Nat ReplicatedMessage} {msgId : Nat}

def StoredBody.residentLength : StoredBody → Nat
  | .resident bytes => bytes.length
  | .spilled _ => 0

def residentTotal (messages : Map Nat ReplicatedMessage) : Nat :=
  (messages.toList.map fun entry => entry.2.body.residentLength).sum

lemma residentTotal_erase {m : ReplicatedMessage} (there : messages[msgId]? = some m) :
    residentTotal messages = m.body.residentLength + residentTotal (messages.erase msgId) := by
  unfold residentTotal
  rw [((toList_erase_perm there).map _).sum_nat,map_cons,sum_cons]

lemma residentTotal_insert (messages : Map Nat ReplicatedMessage) (msgId : Nat) (m : ReplicatedMessage) :
    residentTotal (messages.insert msgId m) = m.body.residentLength + residentTotal (messages.erase msgId) := by
  have same : (messages.insert msgId m).erase msgId = messages.erase msgId := by
    apply ExtTreeMap.ext_getElem?
    intro other
    rw [Entries.getElem?_erase,Entries.getElem?_erase,Entries.getElem?_insert]
    split <;> rfl
  rw [residentTotal_erase getElem?_insert_self,same]

lemma erase_absent (absent : messages[msgId]? = none) : messages.erase msgId = messages := by
  apply ExtTreeMap.ext_getElem?
  intro other
  rw [Entries.getElem?_erase]
  split
  next here =>
    rw [← here,absent]
  · rfl

end Accounting

def Contents.applyAll (c : Contents) : List QueueCommand → Contents × List QueueResponse
  | [] => (c,[])
  | command::rest =>
    let (c,response) := c.apply command
    let (c,responses) := c.applyAll rest
    (c,response::responses)

namespace QueueState

section Runs

/-- What a replica shows of its contents: the next id, and for each message its failures, its time and the bytes that
are read for it. -/
def observed (s : QueueState) : Contents where
  nextMsgId := s.nextMsgId
  messages id := s.messages[id]?.bind fun m => (s.fetch m.body).map fun body => ⟨m.failures,m.enqueuedMs,body⟩

def Readable (s : QueueState) : Prop := ∀ (id : Nat) (m : ReplicatedMessage), s.messages[id]? = some m → (s.fetch m.body).isSome

def start : Option (Nat × Nat) → QueueState
  | none => {}
  | some (fresh,residentMaxBytes) => paged (Spill.openDir fresh) residentMaxBytes

def applyAll (faults : Nat → AppendFault) : Nat → QueueState → List QueueCommand → Option (QueueState × List QueueResponse)
  | _,s,[] => some (s,[])
  | position,s,command::rest => match s.apply (faults position) command with
    | none => none
    | some (s,response) => (applyAll faults (position + 1) s rest).map fun (s,responses) => (s,response::responses)

def strands (fault : AppendFault) (s : QueueState) (body : Bytes) : Bool :=
  s.paging.any fun paging =>
    decide (paging.residentMaxBytes < s.residentBytes + body.length) && paging.spill.strands fault

def spillFails (fault : AppendFault) (s : QueueState) (body : Bytes) : Bool :=
  s.paging.any fun paging => decide (paging.residentMaxBytes < s.residentBytes + body.length) &&
    (paging.spill.append fault body).any fun (_,r) => r.isNone

def Spills (fault : AppendFault) (s : QueueState) : QueueCommand → Prop
  | .enqueue body _ => s.spillFails fault body = false
  | .settle _ _ => True

def SpillsAll (faults : Nat → AppendFault) : Nat → QueueState → List QueueCommand → Prop
  | _,_,[] => True
  | position,s,command::rest => s.Spills (faults position) command ∧
    ∀ t response, s.apply (faults position) command = some (t,response) → SpillsAll faults (position + 1) t rest

def Safe (fault : AppendFault) (s : QueueState) : QueueCommand → Prop
  | .enqueue body _ => body.length < 2^32 ∧ s.strands fault body = false
  | .settle _ _ => True

def SafeAll (faults : Nat → AppendFault) : Nat → QueueState → List QueueCommand → Prop
  | _,_,[] => True
  | position,s,command::rest => s.Safe (faults position) command ∧
    ∀ t response, s.apply (faults position) command = some (t,response) → SafeAll faults (position + 1) t rest

def Within (s : QueueState) : Prop := ∀ paging, s.paging = some paging → s.residentBytes ≤ paging.residentMaxBytes

end Runs

section Steps

variable {s t : QueueState} {c : Contents}

variable {fault : AppendFault}

structure Good (s : QueueState) (c : Contents) : Prop where
  sound : s.Sound
  represents : s.Represents c
  ready : s.Ready
  exact : s.residentBytes = residentTotal s.messages
  bounded : ∀ (id : Nat) (m : ReplicatedMessage), s.messages[id]? = some m → id ≤ s.nextMsgId
  short : c.Short

lemma storeBody_safe (sound : ∀ paging, s.paging = some paging → paging.spill.Sound) (ready : s.Ready)
    {body : Bytes} (safe : s.strands fault body = false) :
    ∃ t stored, s.storeBody fault body = some (t,stored) ∧ t.Ready ∧
      t.residentBytes = s.residentBytes + stored.residentLength ∧
      (s.spillFails fault body = false → s.Within → t.Within) := by
  unfold storeBody
  cases paged : s.paging with
  | none => exact ⟨_,_,rfl,ready,rfl,fun _ _ paging there => nomatch paged.symm.trans there⟩
  | some paging =>
    dsimp only
    split
    next fits =>
      refine ⟨_,_,rfl,ready,rfl,fun _ _ other there => ?_⟩
      cases paged.symm.trans there
      exact fits
    rename_i above
    have free : paging.spill.strands fault = false := by
      simpa [strands,paged,Nat.not_le.mp above] using safe
    obtain ⟨_,r,ok,after⟩ := append_safe (sound paging paged) (ready paging paged) free body
    rw [ok]
    cases r with
    | some =>
      refine ⟨_,_,rfl,?_,rfl,fun _ within other there => ?_⟩
      · rintro q ⟨⟩
        exact after
      · cases there
        exact within paging paged
    | none =>
      refine ⟨_,_,rfl,?_,rfl,fun clean => ?_⟩
      · rintro q ⟨⟩
        exact after
      · simp [spillFails,paged,Nat.not_le.mp above,ok] at clean

structure Stepped (fault : AppendFault) (command : QueueCommand) (s t : QueueState) (after : Contents) : Prop where
  good : t.Good after
  within : s.Spills fault command → s.Within → t.Within

lemma enqueue_stepped (good : s.Good c) {body : Bytes} {enqueuedMs : Nat}
    (safe : s.Safe fault (.enqueue body enqueuedMs)) :
    ∃ t response, s.apply fault (.enqueue body enqueuedMs) = some (t,response) ∧
      Stepped fault (.enqueue body enqueuedMs) s t (c.apply (.enqueue body enqueuedMs)).1 ∧ response = (c.apply (.enqueue body enqueuedMs)).2 := by
  obtain ⟨u,stored,ok,ready,bytes,within⟩ := storeBody_safe (s := {s with nextMsgId := s.nextMsgId + 1})
    good.sound.spill good.ready safe.2
  have result := storeBody_stored (s := {s with nextMsgId := s.nextMsgId + 1}) good.sound.spill ok
  have kept : u.messages = s.messages := result.messages
  have absent : s.messages[s.nextMsgId + 1]? = none := by
    cases there : s.messages[s.nextMsgId + 1]? with
    | none => rfl
    | some m => exact absurd (good.bounded _ m there) (Nat.not_succ_le_self _)
  have applied : s.apply fault (.enqueue body enqueuedMs) =
      some ({u with messages := u.messages.insert (s.nextMsgId + 1) ⟨stored,0,enqueuedMs⟩},.enqueued (s.nextMsgId + 1)) := by
    unfold apply
    simp only [ok]
  have short : QueueCommand.Short (.enqueue body enqueuedMs) := safe.1
  obtain ⟨⟨sound,represents,-⟩,response⟩ := apply_applied good.sound good.represents short applied
  refine ⟨_,_,applied,⟨⟨sound,represents,ready,?_,?_,?_⟩,within⟩,response⟩
  · rw [residentTotal_insert,kept,erase_absent absent,← good.exact,bytes,Nat.add_comm]
  · intro id m there
    rw [Entries.getElem?_insert,kept] at there
    rw [result.next]
    split at there
    next here =>
      exact here.symm.le
    · exact (good.bounded id m there).trans (Nat.le_succ _)
  intro id v there
  change update c.messages (c.nextMsgId + 1) (some ⟨0,enqueuedMs,body⟩) id = some v at there
  by_cases here : id = c.nextMsgId + 1
  · subst here
    rw [update_self] at there
    cases there
    exact safe.1
  · rw [update_of_ne here] at there
    exact good.short id v there

lemma settle_short (short : c.Short) (msgId : Nat) (requeue : Bool) : (c.apply (.settle msgId requeue)).1.Short := by
  unfold Contents.apply
  dsimp only
  split
  · exact short
  rename_i m present
  intro id v there
  change update c.messages msgId _ id = some v at there
  by_cases here : id = msgId
  · subst here
    rw [update_self] at there
    split at there
    · cases there
      exact short id m present
    · cases there
  · rw [update_of_ne here] at there
    exact short id v there

lemma settle_stepped (good : s.Good c) (fault : AppendFault) (msgId : Nat) (requeue : Bool) :
    ∃ t response, s.apply fault (.settle msgId requeue) = some (t,response) ∧
      Stepped fault (.settle msgId requeue) s t (c.apply (.settle msgId requeue)).1 ∧ response = (c.apply (.settle msgId requeue)).2 := by
  have finish {t : QueueState} {response : QueueResponse} (applied : s.apply fault (.settle msgId requeue) = some (t,response))
      (ready : t.Ready) (account : t.residentBytes = residentTotal t.messages) (less : t.residentBytes ≤ s.residentBytes)
      (bounded : ∀ (id : Nat) (m : ReplicatedMessage), t.messages[id]? = some m → id ≤ t.nextMsgId) :
      ∃ t response, s.apply fault (.settle msgId requeue) = some (t,response) ∧
        Stepped fault (.settle msgId requeue) s t (c.apply (.settle msgId requeue)).1 ∧ response = (c.apply (.settle msgId requeue)).2 := by
    have short : QueueCommand.Short (.settle msgId requeue) := trivial
    obtain ⟨⟨sound,represents,moves⟩,same⟩ := apply_applied good.sound good.represents short applied
    refine ⟨t,response,applied,⟨⟨sound,represents,ready,account,bounded,settle_short good.short msgId requeue⟩,?_⟩,same⟩
    intro _ within q after
    rw [after] at moves
    generalize before : s.paging = paging at moves
    cases moves with
    | paged budget _ => exact budget ▸ less.trans (within _ before)
  cases there : s.messages[msgId]? with
  | none =>
    have applied : s.apply fault (.settle msgId requeue) = some (s,.notFound) := by
      cases requeue <;> simp only [apply,there]
    exact finish applied good.ready good.exact le_rfl good.bounded
  | some m =>
    have total := residentTotal_erase there
    cases requeue with
    | true =>
      have applied : s.apply fault (.settle msgId true) =
          some ({s with messages := s.messages.insert msgId {m with failures := m.failures + 1}},.settled) := by
        simp only [apply,there]
      refine finish applied good.ready ?_ le_rfl ?_
      · rw [residentTotal_insert,good.exact,total]
      intro id found present
      rw [Entries.getElem?_insert] at present
      split at present
      next here =>
        exact here ▸ good.bounded msgId m there
      · exact good.bounded id found present
    | false =>
      have applied : s.apply fault (.settle msgId false) =
          some (dropBody {s with messages := s.messages.erase msgId} m.body,.settled) := by
        simp only [apply,there]
      have bounded : ∀ (id : Nat) (found : ReplicatedMessage), (s.messages.erase msgId)[id]? = some found →
          id ≤ s.nextMsgId := by
        intro id found present
        exact good.bounded id found (of_erase present).2
      have exact_ := good.exact
      cases stored : m.body with
      | resident bytes =>
        rw [stored] at applied total
        change _ = bytes.length + _ at total
        refine finish applied good.ready ?_ (Nat.sub_le ..) bounded
        change s.residentBytes - bytes.length = residentTotal (s.messages.erase msgId)
        omega
      | spilled r =>
        rw [stored] at applied total
        change _ = 0 + _ at total
        refine finish applied ?_ ?_ le_rfl bounded
        · intro q after
          obtain ⟨p,before,rfl⟩ := map_eq_some_iff.mp after
          exact release_ready (good.ready p before) r
        · change s.residentBytes = residentTotal (s.messages.erase msgId)
          omega

lemma apply_stepped (good : s.Good c) {command : QueueCommand} (safe : s.Safe fault command) :
    ∃ t response, s.apply fault command = some (t,response) ∧ Stepped fault command s t (c.apply command).1 ∧
      response = (c.apply command).2 := by
  cases command with
  | enqueue => exact enqueue_stepped good safe
  | settle msgId requeue => exact settle_stepped good fault msgId requeue

end Steps

section Logs

variable {s : QueueState} {c : Contents}

lemma applyAll_good (good : s.Good c) {faults : Nat → AppendFault} {position : Nat} {log : List QueueCommand}
    (safe : SafeAll faults position s log) :
    ∃ t, applyAll faults position s log = some (t,(c.applyAll log).2) ∧ t.Good (c.applyAll log).1 ∧
      (SpillsAll faults position s log → s.Within → t.Within) := by
  induction log generalizing s c position with
  | nil => exact ⟨s,rfl,good,fun _ => id⟩
  | cons command rest ih =>
    obtain ⟨t,response,ok,stepped,same⟩ := apply_stepped good safe.1
    obtain ⟨last,run,after,within⟩ := ih stepped.good (safe.2 t response ok)
    refine ⟨last,?_,after,fun clean start => within (clean.2 t response ok) (stepped.within clean.1 start)⟩
    rw [applyAll,ok]
    simp only [run,map_some,same]
    rfl

section

variable (represents : s.Represents c) (sound : ∀ paging, s.paging = some paging → paging.spill.Sound)

include represents sound

lemma Represents.observed : s.observed = c := by
  have messages : s.observed.messages = c.messages := by
    funext id
    change (s.messages[id]?.bind _) = _
    cases there : s.messages[id]? with
    | none => exact (represents.absent there).symm
    | some =>
      obtain ⟨_,listed,failures,ms,stores⟩ := represents.present there
      rw [listed,bind_some,stores.fetch sound,failures,ms]
      rfl
  have next : s.observed.nextMsgId = c.nextMsgId := represents.next
  cases c
  cases shown : s.observed
  simp_all

lemma Represents.readable : s.Readable := by
  intro id m there
  obtain ⟨_,-,-,-,stores⟩ := represents.present there
  rw [stores.fetch sound]
  rfl

end

lemma start_good (paging : Option (Nat × Nat)) : (start paging).Good {} := by
  have empty : ∀ (id : Nat) (m : ReplicatedMessage), (∅ : Map Nat ReplicatedMessage)[id]? = some m → False := by
    intro id m there
    cases there
  have represents : ∀ s : QueueState, s.messages = ∅ → s.nextMsgId = 0 → s.Represents {} := by
    intro s none zero
    refine ⟨zero,fun id => ?_⟩
    rw [none,getElem?_empty]
    trivial
  cases paging with
  | none => exact ⟨⟨nofun,nofun⟩,represents _ rfl rfl,nofun,rfl,fun id m there => (empty id m there).elim,nofun⟩
  | some config =>
    refine ⟨⟨?_,?_⟩,represents _ rfl rfl,?_,rfl,fun id m there => (empty id m there).elim,nofun⟩
    · rintro q ⟨⟩
      exact openPreserving_sound {} config.1
    · rintro q ⟨⟩ id
      exact Nat.zero_le _
    · rintro q ⟨⟩ id current
      cases current

end Logs

section Restoring

variable {s t : QueueState} {c : Contents} {p : PortableState}

variable {bytes : Bytes} {m : PortableMessage}

def emptied (s : QueueState) (residentMaxBytes : Nat) : QueueState :=
  {paging := s.paging.map fun paging => {paging with residentMaxBytes := residentMaxBytes}}

/-- No body of the snapshot strands the spill store as it is stored. -/
def SafeRestore (spillId : Nat) (faults : Nat → AppendFault) : Nat → QueueState → List PortableMessage → Prop
  | _,_,[] => True
  | position,s,m::rest =>
    (∀ bytes, m.body = .inline bytes → s.strands (faults position) bytes = false) ∧
    ∀ t stored, s.restoreBody spillId (faults position) m.body = .ok (t,stored) →
      SafeRestore spillId faults (position + 1)
        {t with messages := t.messages.insert m.msgId ⟨stored,m.failures,m.enqueuedMs⟩} rest

def Keeps (s : QueueState) (stored : StoredBody) (body : Bytes) : Prop :=
  s.Stores stored body ∧ ∀ r q, stored = .spilled r → s.paging = some q → 0 < q.spill.liveOf r.segment

def Recovers (s : QueueState) (spillId : Nat) : PortableBody → Bytes → Prop
  | .inline bytes,body => bytes = body
  | .external r,body => s.Keeps (.spilled r) body ∧ ∃ q, s.paging = some q ∧ q.spill.id = spillId

lemma Keeps.stored {stored other : StoredBody} {body : Bytes} (result : Stored s t bytes other)
    (keeps : s.Keeps stored body) : t.Keeps stored body := by
  have live : ∀ r q, stored = .spilled r → t.paging = some q → 0 < q.spill.liveOf r.segment := by
    intro r q spilled after
    obtain ⟨before,paged,counts⟩ := result.live after
    rw [counts]
    exact Nat.lt_of_lt_of_le (keeps.2 r before spilled paged) (Nat.le_add_right _ _)
  exact ⟨keeps.1.later result.moves fun q r after spilled => Spill.Has.of_liveOf (live r q spilled after),live⟩

lemma Recovers.stored {spillId : Nat} {portable : PortableBody} {stored : StoredBody} {body : Bytes}
    (result : Stored s t bytes stored) (recovers : s.Recovers spillId portable body) :
    t.Recovers spillId portable body := by
  cases portable with
  | inline => exact recovers
  | external =>
    obtain ⟨keeps,_,paged,same⟩ := recovers
    refine ⟨keeps.stored result,?_⟩
    have moves := result.moves
    rw [paged] at moves
    generalize t.paging = after at moves ⊢
    cases moves with
    | paged budget moves => exact ⟨_,rfl,moves.2.id.trans same⟩

lemma Stored.keeps {stored : StoredBody} {body : Bytes} (result : Stored s t body stored)
    (short : body.length < 2^32) : t.Keeps stored body := by
  refine ⟨result.stores short,?_⟩
  rintro r q rfl after
  obtain ⟨_,-,counts⟩ := result.live after
  have here : (StoredBody.spilled r).ref?.map SpillRef.segment = some r.segment := rfl
  rw [counts,if_pos here]
  exact Nat.succ_pos _

structure Reviving (p : PortableState) (c : Contents) (s : QueueState) : Prop where
  next : s.nextMsgId = c.nextMsgId
  sound : ∀ paging, s.paging = some paging → paging.spill.Sound
  ready : s.Ready
  listed : ∀ m ∈ p.messages, ∃ body, c.messages m.msgId = some ⟨m.failures,m.enqueuedMs,body⟩ ∧ s.Recovers p.spillId m.body body
  messages : ∀ (id : Nat) (m : ReplicatedMessage), s.messages[id]? = some m → ∃ v, c.messages id = some v ∧
    m.failures = v.failures ∧ m.enqueuedMs = v.enqueuedMs ∧ s.Keeps m.body v.body

lemma Reviving.insert (reviving : Reviving p c s) {stored : StoredBody} {body : Bytes}
    (listed : c.messages m.msgId = some ⟨m.failures,m.enqueuedMs,body⟩) (keeps : s.Keeps stored body) :
    Reviving p c {s with messages := s.messages.insert m.msgId ⟨stored,m.failures,m.enqueuedMs⟩} := by
  have carry {other : StoredBody} {bytes : Bytes} (keeps : s.Keeps other bytes) :
      Keeps {s with messages := s.messages.insert m.msgId ⟨stored,m.failures,m.enqueuedMs⟩} other bytes :=
    ⟨keeps.1.withMessages rfl,keeps.2⟩
  refine ⟨reviving.next,reviving.sound,reviving.ready,?_,?_⟩
  · intro other member
    obtain ⟨bytes,same,recovers⟩ := reviving.listed other member
    refine ⟨bytes,same,?_⟩
    cases external : other.body with
    | inline =>
      rw [external] at recovers
      exact recovers
    | external =>
      rw [external] at recovers
      exact ⟨carry recovers.1,recovers.2⟩
  intro id found there
  rcases of_insert there with ⟨rfl,rfl⟩ | ⟨-,there⟩
  · exact ⟨_,listed,rfl,rfl,carry keeps⟩
  · obtain ⟨v,same,failures,ms,keeps⟩ := reviving.messages id found there
    exact ⟨v,same,failures,ms,carry keeps⟩

lemma Reviving.store (reviving : Reviving p c s) {stored : StoredBody} (result : Stored s t bytes stored)
    (ready : t.Ready) : Reviving p c t := by
  refine ⟨result.next.trans reviving.next,?_,ready,?_,?_⟩
  · intro q after
    have moves := result.moves
    rw [after] at moves
    generalize s.paging = before at moves
    cases moves with
    | paged budget moves => exact moves.1
  · intro m member
    obtain ⟨body,same,recovers⟩ := reviving.listed m member
    exact ⟨body,same,recovers.stored result⟩
  · intro id m there
    rw [result.messages] at there
    obtain ⟨v,same,failures,ms,keeps⟩ := reviving.messages id m there
    exact ⟨v,same,failures,ms,keeps.stored result⟩

lemma Reviving.body (reviving : Reviving p c s) (short : c.Short) (member : m ∈ p.messages)
    {fault : AppendFault} (safe : ∀ bytes, m.body = .inline bytes → s.strands fault bytes = false) :
    ∃ t stored, s.restoreBody p.spillId fault m.body = .ok (t,stored) ∧ t.messages = s.messages ∧
      Reviving p c {t with messages := t.messages.insert m.msgId ⟨stored,m.failures,m.enqueuedMs⟩} := by
  obtain ⟨body,listed,recovers⟩ := reviving.listed m member
  unfold restoreBody
  cases external : m.body with
  | inline =>
    rw [external] at recovers
    cases recovers
    obtain ⟨t,stored,ok,ready,-,-⟩ := storeBody_safe reviving.sound reviving.ready (safe body external)
    have result := storeBody_stored reviving.sound ok
    simp only [ok]
    exact ⟨t,stored,rfl,result.messages,(reviving.store result ready).insert listed (result.keeps (short _ _ listed))⟩
  | external r =>
    rw [external] at recovers
    obtain ⟨keeps,q,paged,same⟩ := recovers
    obtain ⟨_,paged',held⟩ := keeps.1
    cases paged.symm.trans paged'
    simp only [paged]
    rw [if_neg (not_not.mpr same),held.read (reviving.sound q paged)]
    exact ⟨s,.spilled r,rfl,rfl,reviving.insert listed keeps⟩

variable {faults : Nat → AppendFault}

lemma Reviving.all (reviving : Reviving p c s) (short : c.Short)
    {position : Nat} {rest : List PortableMessage} (members : ∀ m ∈ rest, m ∈ p.messages)
    (safe : SafeRestore p.spillId faults position s rest) :
    ∃ t, s.restoreMessages p.spillId faults position rest = (t,.ok ()) ∧ Reviving p c t ∧
      (∀ id : Nat, (s.messages[id]?).isSome → (t.messages[id]?).isSome) ∧
      ∀ m ∈ rest, (t.messages[m.msgId]?).isSome := by
  induction rest generalizing s position with
  | nil => exact ⟨s,rfl,reviving,fun _ => id,nofun⟩
  | cons m rest ih =>
    obtain ⟨u,stored,ok,same,inserted⟩ := reviving.body short (members m mem_cons_self) safe.1
    obtain ⟨t,done,revived,kept,all⟩ := ih inserted (fun other member => members other (mem_cons_of_mem _ member))
      (safe.2 u stored ok)
    have present : ∀ id : Nat, m.msgId = id ∨ (s.messages[id]?).isSome → (t.messages[id]?).isSome := by
      intro id there
      refine kept id ?_
      rw [Entries.getElem?_insert,same]
      split
      · rfl
      next apart =>
        exact there.resolve_left apart
    refine ⟨t,?_,revived,fun id there => present id (Or.inr there),?_⟩
    · unfold restoreMessages
      rw [ok]
      exact done
    intro other member
    rcases mem_cons.mp member with rfl|later
    · exact present other.msgId (Or.inl rfl)
    · exact all other later

lemma Good.snapshot (good : s.Good c) : ∃ p, s.snapshotBytes = some p := by
  unfold snapshotBytes
  dsimp only
  split
  · exact ⟨_,rfl⟩
  rename_i external
  rw [List.all_map,Bool.not_eq_true,List.all_eq_false] at external
  obtain ⟨⟨_,m⟩,member,spilled⟩ := external
  have there := mem_toList_iff_getElem?_eq_some.mp member
  obtain ⟨_,-,-,-,stores⟩ := good.represents.present there
  cases stored : m.body with
  | resident => simp [stored,StoredBody.portable,PortableBody.ref?] at spilled
  | spilled =>
    rw [stored] at stores
    obtain ⟨_,paged,-⟩ := stores
    rw [paged]
    exact ⟨_,rfl⟩

lemma Good.reviving (good : s.Good c) (ok : s.snapshotBytes = some p) (residentMaxBytes : Nat) :
    Reviving p c {(s.emptied residentMaxBytes).clear with nextMsgId := p.nextMsgId} := by
  obtain ⟨next,messages⟩ := snapshotBytes_fields ok
  have above : ∀ q, (s.emptied residentMaxBytes).paging = some q → ∃ before, s.paging = some before ∧ q.spill = before.spill := by
    intro q after
    obtain ⟨before,paged,rfl⟩ := map_eq_some_iff.mp after
    exact ⟨before,paged,rfl⟩
  refine ⟨next.trans good.represents.next,?_,?_,?_,?_⟩
  · intro q after
    obtain ⟨before,paged,same⟩ := above q after
    exact same ▸ good.sound.spill before paged
  · intro q after
    obtain ⟨before,paged,same⟩ := above q after
    exact same ▸ good.ready before paged
  · intro found member
    have listed := member
    rw [messages] at listed
    obtain ⟨⟨id,m⟩,there,rfl⟩ := mem_map.mp listed
    have there := mem_toList_iff_getElem?_eq_some.mp there
    obtain ⟨v,same,failures,ms,stores⟩ := good.represents.present there
    refine ⟨v.body,?_,?_⟩
    · change c.messages id = some ⟨m.failures,m.enqueuedMs,v.body⟩
      rw [same,failures,ms]
    change Recovers _ p.spillId m.body.portable v.body
    cases stored : m.body with
    | resident =>
      rw [stored] at stores
      exact stores
    | spilled r =>
      rw [stored] at stores
      obtain ⟨q,paged,held⟩ := stores
      have after : (s.emptied residentMaxBytes).paging = some {q with residentMaxBytes := residentMaxBytes} := by
        unfold emptied
        rw [paged]
        rfl
      have referenced : p.segments ≠ [] := ne_nil_of_mem (PortableState.mem_segments member (congrArg StoredBody.portable stored))
      refine ⟨⟨⟨_,after,held⟩,?_⟩,_,after,(snapshotBytes_spillId paged ok referenced).symm⟩
      rintro ref q' ⟨⟩ there'
      cases after.symm.trans there'
      exact Nat.lt_of_lt_of_le (refsTo_pos there stored) (good.sound.counted q paged r.segment)
  · intro id m there
    cases there

lemma Good.restored (good : s.Good c) (ok : s.snapshotBytes = some p) {residentMaxBytes : Nat}
    (safe : SafeRestore p.spillId faults 0 {s.emptied residentMaxBytes with nextMsgId := p.nextMsgId} p.messages) :
    ∃ t, (s.emptied residentMaxBytes).restoreSnapshot faults (some p) = (t,.ok ()) ∧ t.observed = c ∧ t.Readable := by
  obtain ⟨t,done,revived,-,all⟩ := (good.reviving ok residentMaxBytes).all good.short (fun m member => member) safe
  have represents : t.Represents c := by
    refine ⟨revived.next,fun id => ?_⟩
    cases there : t.messages[id]? with
    | none =>
      cases listed : c.messages id with
      | none => trivial
      | some =>
        cases present : s.messages[id]? with
        | none => cases (good.represents.absent present).symm.trans listed
        | some m =>
          have member : ⟨id,m.failures,m.enqueuedMs,m.body.portable⟩ ∈ p.messages := by
            rw [(snapshotBytes_fields ok).2]
            exact mem_map.mpr ⟨(id,m),mem_toList_iff_getElem?_eq_some.mpr present,rfl⟩
          have found := all _ member
          rw [there] at found
          cases found
    | some m =>
      obtain ⟨_,same,failures,ms,stores,-⟩ := revived.messages id m there
      rw [same]
      exact ⟨failures,ms,stores⟩
  exact ⟨t,done,represents.observed revived.sound,represents.readable revived.sound⟩

end Restoring

section Replicas

variable {s : QueueState}

variable {faults : Nat → AppendFault} {log : List QueueCommand}

lemma SafeAll.take {position : Nat} (safe : SafeAll faults position s log) (n : Nat) :
    SafeAll faults position s (log.take n) := by
  induction log generalizing s position n with
  | nil => rw [take_nil]; trivial
  | cons command rest ih =>
    cases n with
    | zero => trivial
    | succ n => exact ⟨safe.1,fun t response ok => ih (safe.2 t response ok) n⟩

structure Kept (faults : Nat → AppendFault) (paging : Option (Nat × Nat)) (log : List QueueCommand) (s : QueueState) : Prop where
  readable : s.Readable
  exact : s.residentBytes = residentTotal s.messages
  within : SpillsAll faults 0 (start paging) log → s.Within
  restored : ∃ p, s.snapshotBytes = some p ∧ ∀ (faults : Nat → AppendFault) (residentMaxBytes : Nat),
    SafeRestore p.spillId faults 0 {s.emptied residentMaxBytes with nextMsgId := p.nextMsgId} p.messages →
      ∃ t, (s.emptied residentMaxBytes).restoreSnapshot faults (some p) = (t,.ok ()) ∧
        t.observed = s.observed ∧ t.Readable

lemma start_within (paging : Option (Nat × Nat)) : (start paging).Within := by
  cases paging with
  | none => nofun
  | some =>
    rintro q ⟨⟩
    exact Nat.zero_le _

lemma start_kept {paging : Option (Nat × Nat)} (safe : SafeAll faults 0 (start paging) log) :
    ∃ s, applyAll faults 0 (start paging) log = some (s,(Contents.applyAll {} log).2) ∧
      s.observed = (Contents.applyAll {} log).1 ∧ s.Kept faults paging log := by
  obtain ⟨s,run,good,within⟩ := applyAll_good (start_good paging) safe
  have observed := good.represents.observed good.sound.spill
  refine ⟨s,run,observed,good.represents.readable good.sound.spill,good.exact,fun clean => within clean (start_within paging),?_⟩
  obtain ⟨p,ok⟩ := good.snapshot
  refine ⟨p,ok,fun faults residentMaxBytes safe => ?_⟩
  rw [observed]
  exact good.restored ok safe

theorem replicas_agree (log : List QueueCommand) (first second : Option (Nat × Nat)) (f g : Nat → AppendFault)
    (firstSafe : SafeAll f 0 (start first) log) (secondSafe : SafeAll g 0 (start second) log) (n : Nat) :
    ∃ s t responses, applyAll f 0 (start first) (log.take n) = some (s,responses) ∧
      applyAll g 0 (start second) (log.take n) = some (t,responses) ∧ s.observed = t.observed ∧
      s.Kept f first (log.take n) ∧ t.Kept g second (log.take n) := by
  obtain ⟨s,sRun,sObserved,sKept⟩ := start_kept (firstSafe.take n)
  obtain ⟨t,tRun,tObserved,tKept⟩ := start_kept (secondSafe.take n)
  exact ⟨s,t,_,sRun,tRun,sObserved.trans tObserved.symm,sKept,tKept⟩

lemma safeAll_of_creates (creates : ∀ position, faults position ≠ .create)
    (short : ∀ command ∈ log, command.Short) (position : Nat) : SafeAll faults position s log := by
  induction log generalizing s position with
  | nil => trivial
  | cons command rest ih =>
    refine ⟨?_,fun t response _ => ih (fun other member => short other (mem_cons_of_mem _ member)) (position + 1)⟩
    cases command with
    | settle => trivial
    | enqueue =>
      refine ⟨short _ mem_cons_self,?_⟩
      unfold strands Spill.strands
      cases fault : faults position with
      | create => exact absurd fault (creates position)
      | none | write => simp

theorem replicas_agree_spilling :
    let log := [.enqueue [1,2] 5,.enqueue [3] 6,.enqueue [4] 7,.settle 1 true,.settle 2 false]
    let f := fun _ => AppendFault.none
    let g := fun position => if position = 1 then AppendFault.write 0 else .none
    (SafeAll f 0 (start none) log ∧ SafeAll g 0 (start (some (7,2))) log) ∧
      ∃ s t responses, applyAll f 0 (start none) (log.take 5) = some (s,responses) ∧
        applyAll g 0 (start (some (7,2))) (log.take 5) = some (t,responses) ∧ s.observed = t.observed ∧
        s.Kept f none (log.take 5) ∧ t.Kept g (some (7,2)) (log.take 5) := by
  intro log f g
  have short : ∀ command ∈ log, command.Short := by
    simp [log,QueueCommand.Short]
  have firstSafe : SafeAll f 0 (start none) log := by
    refine safeAll_of_creates (fun position => ?_) short 0
    nofun
  have secondSafe : SafeAll g 0 (start (some (7,2))) log := by
    refine safeAll_of_creates (fun position => ?_) short 0
    simp only [g]
    split <;> nofun
  exact ⟨⟨firstSafe,secondSafe⟩,replicas_agree log none (some (7,2)) f g firstSafe secondSafe 5⟩

lemma strands_panics {fault : AppendFault} {body : Bytes} (stranded : s.strands fault body = true) (enqueuedMs : Nat) :
    ∃ t response, s.apply fault (.enqueue body enqueuedMs) = some (t,response) ∧
      ∀ (again : AppendFault) (other : Bytes) (ms : Nat), t.apply again (.enqueue other ms) = none := by
  obtain ⟨q,paged,both⟩ := (Option.any_eq_true ..).mp stranded
  obtain ⟨above,spill⟩ := Bool.and_eq_true_iff.mp both
  have above := of_decide_eq_true above
  cases fault with
  | none | write => cases spill
  | create =>
    obtain ⟨rolls,drained⟩ := Bool.and_eq_true_iff.mp spill
    obtain ⟨rolls,unpinned⟩ := Bool.and_eq_true_iff.mp rolls
    obtain ⟨id,current,drained⟩ := (Option.any_eq_true ..).mp drained
    have unpinned : ¬ 0 < q.spill.pins := Nat.not_lt.mpr (eq_of_beq unpinned).le
    have retired : q.spill.retire = q.spill.deleteSegment id := by
      unfold retire reclaim
      simp only [current,drained,if_neg unpinned,if_true]
    have appended : q.spill.append .create body =
        some ({q.spill.deleteSegment id with nextSegment := (q.spill.deleteSegment id).nextSegment + 1},none) := by
      unfold append roll
      rw [eq_of_beq rolls,retired]
    obtain ⟨t,response,ok,bytes,after⟩ : ∃ t response, s.apply .create (.enqueue body enqueuedMs) = some (t,response) ∧
        t.residentBytes = s.residentBytes + body.length ∧
        t.paging = some {q with spill := {q.spill.deleteSegment id with
          nextSegment := (q.spill.deleteSegment id).nextSegment + 1}} := by
      unfold apply storeBody
      simp only [paged,if_neg (Nat.not_le.mpr above),appended]
      exact ⟨_,_,rfl,rfl,rfl⟩
    refine ⟨t,response,ok,fun again other ms => ?_⟩
    have panics : append again {q.spill.deleteSegment id with
        nextSegment := (q.spill.deleteSegment id).nextSegment + 1} other = none := by
      have gone : (q.spill.segments.erase id)[id]? = none := by rw [Entries.getElem?_erase,if_pos rfl]
      unfold append needsRoll deleteSegment
      simp only [current,gone,map_none]
    have still : ¬ t.residentBytes + other.length ≤ q.residentMaxBytes := by omega
    unfold apply storeBody
    simp only [after,if_neg still,panics]

lemma drained_strands {body : Bytes} (large : segmentMaxBytes ≤ body.length) :
    ∃ t first u second, (start (some (0,0))).apply .none (.enqueue body 0) = some (t,first) ∧
      t.apply .none (.settle 1 false) = some (u,second) ∧ u.strands .create [1] = true := by
  have above : ¬ 0 + body.length ≤ 0 := by
    have pos : 0 < segmentMaxBytes := by decide
    omega
  obtain ⟨t,response,spill,ok,there,bytes,paged,current,unpinned,segment⟩ : ∃ t response spill, (start (some (0,0))).apply .none (.enqueue body 0) = some (t,response) ∧
      t.messages[1]? = some ⟨.spilled ⟨0,0,body.length.toUInt32⟩,0,0⟩ ∧ t.residentBytes = 0 ∧
      t.paging = some ⟨spill,0⟩ ∧ spill.current = some 0 ∧ spill.pins = 0 ∧
        spill.segments[0]? = some ⟨1,body.length⟩ := by
    have appended : (openDir 0).append .none body = some ({openDir 0 with
        nextSegment := 1,current := some 0,
        dir := ⟨some 0,((∅ : Map Nat Bytes).insert 0 []).insert 0 (writeAt [] 0 body)⟩,
        segments := ((∅ : Map Nat Segment).insert 0 ⟨0,0⟩).insert 0 ⟨1,0 + body.length⟩},
        some ⟨0,0,body.length.toUInt32⟩) := rfl
    unfold start paged apply storeBody
    simp only [if_neg above,appended]
    refine ⟨_,_,_,rfl,getElem?_insert_self,rfl,rfl,rfl,rfl,?_⟩
    rw [Entries.getElem?_insert,if_pos rfl,Nat.zero_add]
  have released : spill.release ⟨0,0,body.length.toUInt32⟩ =
      {spill with segments := spill.segments.insert 0 ⟨0,body.length⟩} := by
    unfold release
    simp only [segment,current]
    rfl
  have settled : t.apply .none (.settle 1 false) = some ({t with
      messages := t.messages.erase 1,
      paging := some ⟨{spill with segments := spill.segments.insert 0 ⟨0,body.length⟩},0⟩},.settled) := by
    unfold apply
    simp only [there,dropBody,withSpill,paged,map_some,released]
  refine ⟨t,response,_,_,ok,settled,?_⟩
  have rolls : needsRoll {spill with segments := spill.segments.insert 0 ⟨0,body.length⟩} = some true := by
    unfold needsRoll
    simp only [current,Entries.getElem?_insert,if_true,map_some,decide_eq_true large]
  have drained : isDrained {spill with segments := spill.segments.insert 0 ⟨0,body.length⟩} 0 = true := by
    unfold isDrained
    simp only [Entries.getElem?_insert,if_true]
    rfl
  have stranded : Spill.strands .create {spill with segments := spill.segments.insert 0 ⟨0,body.length⟩} = true := by
    have any : (Spill.current {spill with segments := spill.segments.insert 0 ⟨0,body.length⟩}).any
        (isDrained {spill with segments := spill.segments.insert 0 ⟨0,body.length⟩}) = true := by
      rw [current]
      exact drained
    unfold Spill.strands
    rw [rolls,any,unpinned]
    rfl
  unfold strands
  dsimp only [any_some]
  rw [stranded,bytes]
  rfl

lemma strand_divides {body : Bytes} (large : segmentMaxBytes ≤ body.length) (short : body.length < 2^32) :
    applyAll (fun position => if position = 2 then .create else .none) 0 (start (some (0,0)))
        [.enqueue body 0,.settle 1 false,.enqueue [1] 0,.enqueue [2] 0] = none ∧
      (applyAll (fun _ => .none) 0 (start none) [.enqueue body 0,.settle 1 false,.enqueue [1] 0,.enqueue [2] 0]).map Prod.snd =
        some [.enqueued 1,.settled,.enqueued 2,.enqueued 3] := by
  constructor
  · obtain ⟨_,_,_,_,enqueued,settled,stranded⟩ := drained_strands large
    obtain ⟨_,_,kept,panics⟩ := strands_panics stranded 0
    rw [applyAll]
    simp only [Nat.reduceEqDiff,if_false,enqueued]
    rw [applyAll]
    simp only [Nat.reduceAdd,Nat.reduceEqDiff,if_false,settled]
    rw [applyAll]
    simp only [Nat.reduceAdd,if_true,kept]
    rw [applyAll]
    simp only [panics,map_none]
  have shorts : ∀ command ∈ [QueueCommand.enqueue body 0,.settle 1 false,.enqueue [1] 0,.enqueue [2] 0], command.Short := by
    simpa [QueueCommand.Short] using short
  have safe : SafeAll (fun _ => .none) 0 (start none) [.enqueue body 0,.settle 1 false,.enqueue [1] 0,.enqueue [2] 0] := by
    refine safeAll_of_creates (fun position => ?_) shorts 0
    nofun
  obtain ⟨_,_,-⟩ := applyAll_good (start_good none) safe
  rfl

theorem stranded_replica_panics :
    let log := [.enqueue (replicate segmentMaxBytes 0) 0,.settle 1 false,.enqueue [1] 0,.enqueue [2] 0]
    applyAll (fun position => if position = 2 then .create else .none) 0 (start (some (0,0))) log = none ∧
      (applyAll (fun _ => .none) 0 (start none) log).map Prod.snd =
        some [.enqueued 1,.settled,.enqueued 2,.enqueued 3] := by
  have length : (replicate segmentMaxBytes (0 : UInt8)).length = segmentMaxBytes := length_replicate
  refine strand_divides length.ge ?_
  rw [length]
  decide

end Replicas

end QueueState

end Ramqp
