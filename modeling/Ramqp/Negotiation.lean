import Ramqp.FrameSizes
import Ramqp.Semantics.Heartbeat

/-! What the exchange of opens promises to the peer: how long frames are, and how often they are sent. -/
namespace Ramqp.Wire

open Transition Heartbeat Option

section Sizes

variable {own remote : Open} {n : Negotiated}

lemma Negotiated.open_ok (ok : Negotiated.open own remote = .ok n) :
    512 ≤ remote.maxFrameSize.toNat ∧ n = reconcile own remote := by
  unfold Negotiated.open minMaxFrameSize at ok
  split at ok
  · cases ok
  rename_i large
  cases ok
  exact ⟨Nat.not_lt.mp large,rfl⟩

lemma decodeFrame_ok {limit : Nat} {src rest : Bytes} {frame : Frame}
    (ok : decodeFrame limit src = (.ok (some frame),rest)) (other : Nat) : BigEndian.decode (src.take 4) ≤ limit ∧
      (decodeFrame other src = (.ok (some frame),rest) ↔ BigEndian.decode (src.take 4) ≤ other) := by
  unfold decodeFrame at ok ⊢
  split at ok
  · cases ok
  rename_i header
  simp only at ok ⊢
  split_ifs at ok with small large short
  · cases ok
  · cases ok
  · cases ok
  rw [if_neg header,if_neg small]
  refine ⟨Nat.not_lt.mp large,?_⟩
  split_ifs with beyond
  · simp [beyond]
  · exact ⟨fun _ => Nat.not_lt.mp beyond,fun _ => ok⟩

/-- A frame that the advertised limit admits is read exactly if the peer's limit admits it too. A frame that is sent keeps to
the peer's limit if its payload and the fields of its performative that are neither numbers nor flags leave 62 octets, and
the frames of a message do if the state of the delivery leaves room in the first one. -/
theorem negotiated_sizes (own_large : 512 ≤ own.maxFrameSize.toNat) (ok : Negotiated.open own remote = .ok n) :
    (∀ src frame rest, decodeFrame own.maxFrameSize.toNat src = (.ok (some frame),rest) →
      (decodeFrame n.maxFrameSize src = (.ok (some frame),rest) ↔
        BigEndian.decode (src.take 4) ≤ remote.maxFrameSize.toNat)) ∧
    (∀ channel, (Sent.write (.empty channel) []).length ≤ remote.maxFrameSize.toNat) ∧
    (∀ channel performative payload,
      62 + performative.varying.flatten.length + (payload.getD []).length ≤ remote.maxFrameSize.toNat →
      (Sent.write (.amqp channel performative payload) []).length ≤ remote.maxFrameSize.toNat) ∧
    ∀ meaning channel handle deliveryId (sender : SenderLink) message w,
      StateFits meaning n.maxFrameSize handle deliveryId message →
      ∀ frame ∈ (sendMessageFrames channel handle deliveryId sender.deliveryTag message
          (maxPayloadPerFrame n.maxFrameSize) w).2, ∃ t, frame.performative = .transfer t ∧
          (transferOctets meaning frame.channel t frame.payload).length ≤ remote.maxFrameSize.toNat := by
  obtain ⟨large,rfl⟩ := Negotiated.open_ok ok
  have limit : (reconcile own remote).maxFrameSize = min own.maxFrameSize.toNat remote.maxFrameSize.toNat := by
    simp only [reconcile,minMaxFrameSize]
    omega
  rw [limit]
  refine ⟨fun src frame rest read => ?_,fun channel => ?_,fun channel performative payload room => ?_,?_⟩
  · obtain ⟨within,other⟩ := decodeFrame_ok read (min own.maxFrameSize.toNat remote.maxFrameSize.toNat)
    rw [other]
    omega
  · exact (length_write _).trans_le ((by decide : 8 ≤ 512).trans large)
  · have fields := length_performative performative
    rw [length_write,Sent.body,List.length_append]
    omega
  intro meaning channel handle deliveryId sender message w room frame member
  obtain ⟨t,transfer,fits⟩ := frames_fit meaning channel handle deliveryId sender message (by omega) w room frame member
  exact ⟨t,transfer,fits.trans (Nat.min_le_right ..)⟩

def offering (maxFrameSize : UInt32) (idleTimeOut : Option UInt32) : Open :=
  ⟨"client",none,maxFrameSize,0xFFFF,idleTimeOut,[],[],[],[],none⟩

def longTransfer : Bytes := [0,0,2,0x58,2,0,0,0] ++ [0,0x53,0x14,0xc0,2,1,0x43] ++ List.replicate 585 7

def attaching (address : String) : Performative := .attach ⟨"link",0,.receiver,.mixed,.first,
  some ⟨some address,0,⟨"session-end"⟩,0,false,none,none,none,none,[],[]⟩,none,none,false,none,none,[],[],none⟩

set_option maxRecDepth 8000 in
theorem negotiated_sizes_equal : (∃ frame, decodeFrame 1024 longTransfer = (.ok (some frame),[]) ∧
    decodeFrame (reconcile (offering 1024 none) (offering 1024 none)).maxFrameSize longTransfer =
      (.ok (some frame),[])) ∧ (Sent.write (.amqp 0 (attaching "jobs") none) []).length ≤ 1024 := by
  have agreed : Negotiated.open (offering 1024 none) (offering 1024 none) = .ok _ := rfl
  have sizes := negotiated_sizes (by decide) agreed
  exact ⟨⟨_,rfl,(sizes.1 longTransfer _ _ rfl).mpr (by decide)⟩,sizes.2.2.1 0 (attaching "jobs") none (by decide +kernel)⟩

set_option maxRecDepth 8000 in
/-- The client advertises 1024 and reads no frame of more than 512, and sends a longer one to attach to a long address. -/
theorem advertised_frame_refused : ∃ n frame error, Negotiated.open (offering 1024 none) (offering 512 none) = .ok n ∧
    decodeFrame (offering 1024 none).maxFrameSize.toNat longTransfer = (.ok (some frame),[]) ∧
    decodeFrame n.maxFrameSize longTransfer = (.error error,longTransfer) ∧
    512 < (Sent.write (.amqp 0 (attaching (.ofList (.replicate 600 'a'))) none) []).length :=
  ⟨_,_,_,rfl,rfl,rfl,by decide +kernel⟩

end Sizes

section Heartbeats

lemma Heartbeat.tick_folds {h after : Heartbeat} {now : Nat} {action : HeartbeatAction} (ticked : h.tick now = (action,after)) :
    after = h.fold now ∧ (action = .idle → ∀ sendAfter, h.sendAfter = some sendAfter → now - after.lastSend < sendAfter) ∧
      (action = .peerTimedOut → ∃ timeout, h.recvTimeout = some timeout ∧ timeout ≤ now - after.lastRecv) := by
  unfold tick at ticked
  simp only at ticked
  split_ifs at ticked with late early
  · cases ticked
    refine ⟨rfl,by simp,fun _ => ?_⟩
    obtain ⟨timeout,set,old⟩ := (any_eq_true _ _).mp late
    exact ⟨timeout,set,of_decide_eq_true old⟩
  · cases ticked
    exact ⟨rfl,by simp,by simp⟩
  cases ticked
  refine ⟨rfl,fun _ sendAfter interval => ?_,by simp⟩
  simpa [fold,interval] using early

/-- How far apart the frames of an idle connection are: a frame is dated at the tick after it, and the next one is sent at
the first tick that finds it old enough. -/
def Heartbeat.spacing (h : Heartbeat) : Nat :=
  match h.timer,h.sendAfter with
  | some period,some sendAfter => period + period * ((sendAfter + period - 1) / period)
  | _,_ => 0

namespace Beating

variable {s next : Beating} {beat : Beat} {sendAfter period timeout : Nat}

structure Paced (sendAfter period : Nat) (s : Beating) : Prop where
  timer : s.heartbeat.timer = some period
  interval : s.heartbeat.sendAfter = some sendAfter
  before : s.now ≤ s.due ∧ s.due ≤ s.now + period
  dated : ∃ ticks, s.due = s.heartbeat.lastSend + period * ticks + period ∧
    (s.heartbeat.sendSinceTick = false → period * ticks < sendAfter)
  recent : (if s.heartbeat.sendSinceTick then s.due else s.heartbeat.lastSend) ≤ s.sent + period

lemma Paced.gap (paced : s.Paced sendAfter period) (positive : 0 < period) :
    s.now - s.sent ≤ period + period * ((sendAfter + period - 1) / period) := by
  obtain ⟨ticks,due,early⟩ := paced.dated
  have before := paced.before
  have recent := paced.recent
  cases flag : s.heartbeat.sendSinceTick with
  | true =>
    rw [flag,if_pos rfl] at recent
    omega
  | false =>
    rw [flag,if_neg (by simp)] at recent
    have few : ticks + 1 ≤ (sendAfter + period - 1) / period := by
      rw [Nat.le_div_iff_mul_le positive,Nat.add_mul,Nat.mul_comm]
      have := early flag
      omega
    have reached := Nat.mul_le_mul_left period few
    rw [Nat.mul_add] at reached
    omega

lemma Paced.step (paced : s.Paced sendAfter period) (ok : s.step beat = some next) :
    next.Paced sendAfter period := by
  obtain ⟨timer,interval,before,⟨ticks,due,early⟩,recent⟩ := paced
  unfold Beating.step at ok
  split at ok
  · cases ok
  cases beat with
  | pass time =>
    simp only [timer,isSome_some,true_and] at ok
    split at ok
    · cases ok
    rename_i within
    cases ok
    exact ⟨timer,interval,⟨Nat.not_lt.mp within,by simp only; omega⟩,⟨ticks,due,early⟩,recent⟩
  | send =>
    cases ok
    exact ⟨timer,interval,before,⟨ticks,due,by simp [recordSend]⟩,by simpa [recordSend] using before.2⟩
  | recv =>
    cases ok
    exact ⟨timer,interval,before,⟨ticks,due,early⟩,recent⟩
  | tick =>
    simp only [timer,bind_some] at ok
    split at ok
    · cases ok
    rename_i reached
    have on_time : s.now = s.due := by omega
    have dated : ∃ ticks, s.due = (s.heartbeat.fold s.now).lastSend + period * ticks := by
      unfold fold
      cases flag : s.heartbeat.sendSinceTick with
      | true => exact ⟨0,by simp [on_time]⟩
      | false => exact ⟨ticks + 1,by simp only [Bool.false_eq_true,if_false,Nat.mul_add]; omega⟩
    obtain ⟨passed,dated⟩ := dated
    split at ok
    · cases ok
      exact ⟨timer,interval,before,⟨ticks,due,early⟩,recent⟩
    next ticked =>
      cases ok
      obtain ⟨rfl,-⟩ := tick_folds ticked
      refine ⟨timer,interval,⟨by simp only; omega,by simp only; omega⟩,⟨passed,?_,by simp [recordSend]⟩,?_⟩
      · simpa [recordSend] using dated
      · simp [recordSend,on_time]
    rename_i ticked
    cases ok
    obtain ⟨rfl,idle,-⟩ := tick_folds ticked
    have young := idle rfl sendAfter interval
    refine ⟨timer,interval,⟨by simp only; omega,by simp only; omega⟩,⟨passed,by simp only; omega,fun _ => by omega⟩,?_⟩
    simpa [fold,on_time] using recent

lemma start_paced (n : Negotiated) (now : Nat) (interval : n.sendInterval = some sendAfter) (wait : 0 < sendAfter) :
    ∃ period, 0 < period ∧ (start n now).Paced sendAfter period := by
  obtain ⟨period,positive,timer⟩ : ∃ period, 0 < period ∧ (start n now).heartbeat.timer = some period := by
    simp only [start,new,interval]
    cases n.recvTimeout <;> exact ⟨max _ 1000,by omega,rfl⟩
  have due : (start n now).due = now + period := by
    change now + (start n now).heartbeat.timer.getD 0 = _
    rw [timer,getD_some]
  refine ⟨period,positive,timer,interval,?_,⟨0,by rw [due]; rfl,fun _ => wait⟩,Nat.le_add_right ..⟩
  rw [due]
  exact ⟨Nat.le_add_right ..,le_rfl⟩

structure Heard (timeout : Nat) (s : Beating) : Prop where
  set : s.heartbeat.recvTimeout = some timeout
  open_ : s.timedOut = false
  past : s.heard ≤ s.now
  dated : s.heartbeat.recvSinceTick = true ∨ s.heard ≤ s.heartbeat.lastRecv

lemma Heard.step (heard : s.Heard timeout) (fresh : s.now - s.heard < timeout) (ok : s.step beat = some next) :
    next.Heard timeout := by
  obtain ⟨set,open_,past,dated⟩ := heard
  unfold Beating.step at ok
  rw [open_,if_neg (by simp)] at ok
  cases beat with
  | pass =>
    simp only at ok
    split at ok
    · cases ok
    · cases ok
      exact ⟨set,rfl,past.trans (Nat.le_add_right ..),dated⟩
  | send =>
    cases ok
    exact ⟨set,rfl,past,dated⟩
  | recv =>
    cases ok
    exact ⟨set,rfl,le_rfl,.inl rfl⟩
  | tick =>
    obtain ⟨_,-,ok⟩ := bind_eq_some_iff.mp ok
    have later : s.heard ≤ (s.heartbeat.fold s.now).lastRecv := by
      unfold fold
      cases flag : s.heartbeat.recvSinceTick with
      | true => simpa using past
      | false => simpa using dated.resolve_left (by simp [flag])
    split at ok
    · cases ok
    cases ticked : s.heartbeat.tick s.now with
    | mk action after =>
      rw [ticked] at ok
      obtain ⟨rfl,-,late⟩ := tick_folds ticked
      cases action with
      | peerTimedOut =>
        obtain ⟨_,same,old⟩ := late rfl
        cases set.symm.trans same
        omega
      | idle | sendEmpty =>
        cases ok
        exact ⟨set,rfl,past,.inr later⟩

end Beating

/-- Where the spacing is within the peer's timeout, no longer time passes without a frame, and a peer that is heard within
the own timeout is not given up. -/
theorem heartbeats {s : Beating} (own remote : Open) (now : Nat) (beats : List Beat)
    (ok : run Beating.step (.start (reconcile own remote) now) beats = some s) :
    (∀ ms, remote.idleTimeOut = some ms → 0 < ms →
      (Beating.start (reconcile own remote) now).heartbeat.spacing ≤ ms.toNat * 1000 →
      s.now - s.sent ≤ ms.toNat * 1000) ∧ ∀ ms, own.idleTimeOut = some ms → 0 < ms →
      Meets Beating.step (fun s _ => s.now - s.heard < ms.toNat * 1000) (.start (reconcile own remote) now) beats →
      s.timedOut = false := by
  constructor
  · intro ms asked positive short
    have interval : (reconcile own remote).sendInterval = some (max (ms.toNat / 2) 1 * 1000) := by
      simp [reconcile,asked,positive]
    obtain ⟨period,_,paced⟩ := Beating.start_paced _ now interval (by omega)
    simp only [Heartbeat.spacing,paced.timer,paced.interval] at short
    have last := run_invariant_all Beating.Paced.step paced ok
    exact (last.gap ‹_›).trans short
  intro ms asked positive fresh
  have set : (reconcile own remote).recvTimeout = some (ms.toNat * 1000) := by simp [reconcile,asked,positive]
  have first : (Beating.start (reconcile own remote) now).Heard (ms.toNat * 1000) :=
    ⟨set,rfl,le_rfl,.inr le_rfl⟩
  exact (run_invariant Beating.Heard.step first fresh ok).open_

def idling : Beating := .start (reconcile (offering 512 (some 1000)) (offering 512 (some 100))) 0

def threeTicks : List Beat := [.pass 50000,.tick,.recv,.pass 50000,.tick,.pass 50000,.tick]

theorem heartbeats_even : ∃ s, run Beating.step idling threeTicks = some s ∧ s.now - s.sent ≤ 100000 ∧
    s.timedOut = false := by
  obtain ⟨s,ok,-⟩ : ∃ s, run Beating.step idling threeTicks = some s ∧ s.now = 150000 :=
    reaches_of_any (by decide +kernel)
  obtain ⟨prompt,heard⟩ := heartbeats _ _ _ _ ok
  refine ⟨s,ok,prompt 100 rfl (by decide) (by decide),heard 1000 rfl (by decide) ?_⟩
  have fresh : Meets Beating.step (fun s _ => decide (s.now - s.heard < 1000 * 1000) = true) idling threeTicks := by
    apply meets_of_check
    decide +kernel
  simpa [idling] using fresh

/-- The peer's timeout is 100 ms, the own one 90 ms, and no frame is sent for 135 ms. -/
theorem heartbeat_late : ∃ s, run Beating.step (.start (reconcile (offering 512 (some 90)) (offering 512 (some 100))) 0)
      [.pass 45000,.recv,.tick,.pass 45000,.recv,.tick,.pass 45000,.recv,.tick,.pass 45000,.recv,.tick,.pass 45000] =
      some s ∧ 100 * 1000 < s.now - s.sent := by
  apply reaches_of_any
  decide +kernel

end Heartbeats

end Ramqp.Wire
