import Ramqp.LinkMoves

/-! The size cap of a receiver link over a whole sequence of transfers. -/
namespace Ramqp

open Option Function ReceiverLink List

def ReceiverLink.held (r : ReceiverLink) : Nat := (r.assembling.map fun p => p.buf.length).getD 0

/-- The place of the first transfer with which a delivery exceeds the cap, when so many octets are assembled. -/
def firstOver (cap : Nat) : Nat → List (Transfer × Option Bytes) → Option Nat
  | _,[] => none
  | held,(t,payload)::rest =>
    if t.aborted then (firstOver cap 0 rest).map (· + 1)
    else if cap < held + (payload.getD []).length then some 0
    else (firstOver cap (if t.more then held + (payload.getD []).length else 0) rest).map (· + 1)

namespace Session

def onTransfers (s : Session) : List (Transfer × Option Bytes) → Except Fault (Session × List (List Effect))
  | [] => .ok (s,[])
  | (t,payload)::rest => match s.onTransfer t payload with
    | .error fault => .error fault
    | .ok (s,effects) => match s.onTransfers rest with
      | .error fault => .error fault
      | .ok (s,log) => .ok (s,effects::log)

def Within (cap : Nat) (effects : List Effect) : Prop :=
  (∀ channel d, (channel,.delivery d) ∈ offered effects → d.message.length ≤ cap) ∧ OnlyFlows (queued effects)

variable {s next : Session} {r after : ReceiverLink} {t : Transfer} {payload : Option Bytes} {remote handle : UInt32}
  {effects : List Effect} {event : Option LinkEvent} {exceeded : Bool}

lemma receive_sizes (received : r.receive t payload = .ok (after,event,exceeded)) :
    after.sizeCap = r.sizeCap ∧ (t.aborted = true ∧ after.held = 0 ∧ event = none ∧ exceeded = false ∨
       t.aborted = false ∧ exceeded = decide (r.sizeCap < r.held + (payload.getD []).length) ∧
        (exceeded = false → after.held = if t.more then r.held + (payload.getD []).length else 0) ∧
        ∀ d, event = some (.delivery d) → d.message.length ≤ r.sizeCap) := by
  have size : (r.started t (payload.getD [])).buf.length = r.held + (payload.getD []).length := by
    unfold started held
    cases r.assembling <;> simp
  unfold receive at received
  dsimp only at received
  rw [size] at received
  split_ifs at received with aborted mixed beyond more
  all_goals cases received
  · exact ⟨rfl,.inl ⟨aborted,rfl,rfl,rfl⟩⟩
  · exact ⟨rfl,.inr ⟨by simpa using aborted,by simp [beyond],by simp,by simp⟩⟩
  · exact ⟨rfl,.inr ⟨by simpa using aborted,by simp [beyond],by simp [more,held,size],by simp⟩⟩
  refine ⟨rfl,.inr ⟨by simpa using aborted,by simp [beyond],by simp [more,held,complete],?_⟩⟩
  rintro d ⟨⟩
  simpa [size] using beyond

lemma onTransfers_unrouted {transfers : List (Transfer × Option Bytes)} {log : List (List Effect)}
    (gone : s.remoteHandles remote = none) (all : ∀ entry ∈ transfers, entry.1.handle = remote)
    (ok : s.onTransfers transfers = .ok (next,log)) : ∀ effects ∈ log, effects = [] := by
  induction transfers generalizing log with
  | nil =>
    cases ok
    simp
  | cons entry rest ih =>
    obtain ⟨own,others⟩ := forall_mem_cons.mp all
    simp only [onTransfers,onTransfer,own,gone] at ok
    split at ok
    · cases ok
    · cases ok
      exact forall_mem_cons.mpr ⟨rfl,ih others (by assumption)⟩

/-- What a sequence of transfers does: all deliveries are within the cap, or one transfer detaches the link and those after
it do nothing. -/
def Capped (cap : Nat) (handle : UInt32) (next : Session) (log : List (List Effect)) : Option Nat → Prop
  | none => (∀ effects ∈ log, Within cap effects) ∧
    ∃ after, next.links[handle]? = some (.receiver after) ∧ after.held ≤ cap
  | some place => (∀ effects ∈ log.take place, Within cap effects) ∧ (∀ effects ∈ log.drop (place + 1), effects = []) ∧
    ∃ last channel flows, log[place]? = some last ∧ (∀ channel d, (channel,.delivery d) ∉ offered last) ∧
      OnlyFlows flows ∧ queued last = flows ++ [⟨channel,.detach ⟨handle,true,some tooLarge⟩,none⟩]

lemma Capped.cons {cap : Nat} {log : List (List Effect)} {place : Option Nat} (within : Within cap effects)
    (capped : Capped cap handle next log place) : Capped cap handle next (effects::log) (place.map (· + 1)) := by
  cases place with
  | none => exact ⟨forall_mem_cons.mpr ⟨within,capped.1⟩,capped.2⟩
  | some place => exact ⟨forall_mem_cons.mpr ⟨within,capped.1⟩,capped.2⟩

/-- Whatever the peer sends on a link, the deliveries and the assembled octets keep to the cap, up to the first delivery
that would not: it is not delivered, the link is detached once, and later transfers do nothing. -/
theorem size_capped {transfers : List (Transfer × Option Bytes)} {log : List (List Effect)} (registered : s.Registered)
    (routed : s.remoteHandles remote = some handle) (here : s.links[handle]? = some (.receiver r))
    (fits : r.held ≤ r.sizeCap) (all : ∀ entry ∈ transfers, entry.1.handle = remote)
    (ok : s.onTransfers transfers = .ok (next,log)) :
    Capped r.sizeCap handle next log (firstOver r.sizeCap r.held transfers) := by
  induction transfers generalizing s r log with
  | nil =>
    cases ok
    exact ⟨by simp,r,here,fits⟩
  | cons entry rest ih =>
    obtain ⟨t,payload⟩ := entry
    obtain ⟨rfl,others⟩ := forall_mem_cons.mp all
    unfold onTransfers at ok
    split at ok
    · cases ok
    rename_i middle effects first
    split at ok
    · cases ok
    rename_i more
    cases ok
    cases onTransfer_transferred first with
    | ignored missed => exact absurd here (missed handle r routed)
    | refused other seen error at_ there links emitted exceeded frames routes =>
      cases routed.symm.trans at_
      cases here.symm.trans there
      obtain ⟨_,_,received⟩ := exceeded
      obtain ⟨_,known,bound⟩ := registered.bound _ _ routed
      cases here.symm.trans known
      obtain ⟨-,⟨-,-,-,absurd⟩ | ⟨whole,beyond,-⟩⟩ := receive_sizes received
      · cases absurd
      rw [firstOver,if_neg (by simpa using whole),if_pos (of_decide_eq_true beyond.symm)]
      obtain ⟨channel,flows,frames⟩ := frames
      exact ⟨by simp,onTransfers_unrouted (routes _ bound) others more,effects,channel,flows,rfl,by simp [emitted],frames⟩
    | taken other seen after event at_ there received links emitted frames routes =>
      cases routed.symm.trans at_
      cases here.symm.trans there
      have registered := Registered.stable.onTransfer registered first
      have routed := (congrFun routes t.handle).trans routed
      have kept : middle.links[handle]? = some (.receiver after) := by
        rw [show middle.links = _ from links]
        simp
      obtain ⟨cap,sizes⟩ := receive_sizes received
      rw [firstOver]
      obtain ⟨aborted,empty,rfl,-⟩ | ⟨whole,within,left,short⟩ := sizes
      · rw [if_pos aborted]
        have later := ih registered routed kept (by omega) others more
        rw [cap,empty] at later
        exact later.cons ⟨by simp [emitted],frames⟩
      have fits := of_decide_eq_false within.symm
      rw [if_neg (by simpa using whole),if_neg fits]
      have later := ih registered routed kept (by rw [left rfl,cap]; split <;> omega) others more
      rw [cap,left rfl] at later
      refine later.cons ⟨fun channel d member => short d ?_,frames⟩
      rw [emitted] at member
      obtain ⟨_,there,same⟩ := mem_map.mp member
      cases same
      exact mem_toList.mp there

def oneReceiver : Except Failure (AcceptedLink × Session × List Effect) :=
  (new 0 1 ⟨none,0,100,100,8⟩ 0 0).acceptPeerAttach {name := "orders",handle := 7,role := .sender} .manual 10 (some 4) 5

def fourTransfers : List (Transfer × Option Bytes) :=
  [({handle := 7},some [1,2]),({handle := 7,more := true},some [1,2,3]),({handle := 7},some [4,5]),({handle := 7},some [6])]

theorem size_capped_third : ∃ accepted s effects next log, oneReceiver = .ok (accepted,s,effects) ∧
    s.onTransfers fourTransfers = .ok (next,log) ∧ Capped 4 0 next log (some 2) := by
  have made : oneReceiver = .ok _ := rfl
  have registered := acceptPeerAttach_registered (.empty rfl rfl ⟨_,rfl⟩) made
  have main := @size_capped _ _ _ 7 0 fourTransfers _ registered rfl rfl (by decide) (by decide) rfl
  exact ⟨_,_,_,_,_,rfl,rfl,main⟩

end Session

end Ramqp
