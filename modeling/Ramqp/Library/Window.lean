import Mathlib.Data.UInt

/-! A full-duplex window protocol over two first-in first-out channels. An endpoint counts
what it sent and received, spends the allowance its peer granted it, and reopens its own
window when that is exhausted. Counters wrap. -/
namespace Window

structure Peer where
  sent : UInt32
  allowance : UInt32
  received : UInt32
  window : UInt32
  refill : UInt32

/-- What travels: a counted item, a note of the emitter's count and of the limit it grants,
or something the protocol does not look at. -/
inductive Item where
  | data
  | note (sent limit : UInt32)
  | other

variable {p q src dst next : Peer} {items forward backward : List Item} {item : Item} {unit : Nat}

variable {first second : List Item} {received sent : UInt32}

namespace Peer

def limit (p : Peer) : UInt32 := p.received + p.window

def spend (p : Peer) : Peer :=
  {p with sent := p.sent + 1,allowance := if 1 ≤ p.allowance then p.allowance - 1 else 0}

def count (p : Peer) : Peer :=
  {p with received := p.received + 1,window := if 1 ≤ p.window then p.window - 1 else 0}

def reopen (p : Peer) : Peer := {p with window := max p.refill 1}

def learn (p : Peer) (sent limit : UInt32) : Peer :=
  {p with allowance := limit - p.sent,received := max p.received sent}

end Peer

inductive Emits : Peer → List Item → Peer → Prop where
  | done (p : Peer) : Emits p [] p
  | data {p q : Peer} {items : List Item} (rest : Emits p.spend items q) : Emits p (.data::items) q
  | note {p q : Peer} {items : List Item} (rest : Emits p items q) :
      Emits p (.note p.sent p.limit::items) q
  | other {p q : Peer} {items : List Item} (rest : Emits p items q) : Emits p (.other::items) q

inductive Absorbs : Peer → Item → List Item → Peer → Prop where
  | data {p q : Peer} {items : List Item} (more : p.count.window ≠ 0) (rest : Emits p.count items q) :
      Absorbs p .data items q
  | exhausted {p q : Peer} {items : List Item} (spent : p.count.window = 0)
      (rest : Emits p.count.reopen items q) :
      Absorbs p .data (.note p.count.reopen.sent p.count.reopen.limit::items) q
  | note {p q : Peer} {sent limit : UInt32} {items : List Item} (rest : Emits (p.learn sent limit) items q) :
      Absorbs p (.note sent limit) items q
  | other {p q : Peer} {items : List Item} (rest : Emits p items q) : Absorbs p .other items q

lemma Emits.trans {r : Peer} (left : Emits p first q) (right : Emits q second r) : Emits p (first ++ second) r := by
  induction left with
  | done => exact right
  | data _ ih => exact .data (ih right)
  | note _ ih => exact .note (ih right)
  | other _ ih => exact .other (ih right)

lemma Emits.frame (emits : Emits p items q) :
    q.received = p.received ∧ q.window = p.window ∧ q.refill = p.refill := by
  induction emits with
  | done => exact ⟨rfl,rfl,rfl⟩
  | data _ ih => exact ih
  | note _ ih => exact ih
  | other _ ih => exact ih

lemma Emits.allowance_le (emits : Emits p items q) : q.allowance.toNat ≤ p.allowance.toNat := by
  induction emits with
  | done => exact le_rfl
  | @data p q items _ ih =>
    refine Nat.le_trans ih ?_
    unfold Peer.spend
    simp only
    split
    next allowed =>
      rw [UInt32.toNat_sub_of_le _ _ allowed]
      omega
    · exact Nat.zero_le _
  | note _ ih => exact ih
  | other _ ih => exact ih

def dataCount : List Item → Nat
  | [] => 0
  | .data::rest => dataCount rest + 1
  | .note _ _::rest => dataCount rest
  | .other::rest => dataCount rest

def lastLimit : List Item → Option UInt32
  | [] => none
  | .note _ limit::rest => some ((lastLimit rest).getD limit)
  | .data::rest => lastLimit rest
  | .other::rest => lastLimit rest

/-- The items ahead lead from a receiver's count to the sender's, and every note among them
carries the count of its place. -/
def Marked : UInt32 → List Item → UInt32 → Prop
  | received,[],sent => received = sent
  | received,.data::rest,sent => Marked (received + 1) rest sent
  | received,.note here _::rest,sent => here = received ∧ Marked received rest sent
  | received,.other::rest,sent => Marked received rest sent

@[simp] lemma dataCount_append : dataCount (first ++ second) = dataCount first + dataCount second := by
  induction first with
  | nil => simp [dataCount]
  | cons item rest ih =>
    cases item with
    | data =>
      simp only [List.cons_append,dataCount,ih]
      omega
    | note => exact ih
    | other => exact ih

lemma lastLimit_append (first second : List Item) :
    lastLimit (first ++ second) = (lastLimit second).or (lastLimit first) := by
  induction first with
  | nil => simp [lastLimit]
  | cons item rest ih =>
    cases item with
    | data => exact ih
    | other => exact ih
    | note =>
      simp only [List.cons_append,lastLimit,ih]
      cases lastLimit second <;> simp

lemma Marked.append {middle : UInt32} (left : Marked received first middle) (right : Marked middle second sent) :
    Marked received (first ++ second) sent := by
  induction first generalizing received with
  | nil =>
    cases left
    exact right
  | cons item rest ih =>
    cases item with
    | data => exact ih left
    | note => exact ⟨left.1,ih left.2⟩
    | other => exact ih left

lemma Marked.sent_eq (marked : Marked received items sent) : sent = received + UInt32.ofNat (dataCount items) := by
  induction items generalizing received with
  | nil =>
    cases marked
    simp [dataCount]
  | cons item rest ih =>
    cases item with
    | data =>
      rw [ih marked]
      simp only [dataCount,UInt32.ofNat_add]
      grind
    | note => exact ih marked.2
    | other => exact ih marked

/-- One direction of the protocol: the counts agree along the channel, and the last limit the
sender will have learnt is the receiver's, unless the window is already used up by what is
under way. -/
structure Synced (src dst : Peer) (forward backward : List Item) : Prop where
  marked : Marked dst.received forward src.sent
  isOpen : 1 ≤ dst.window
  granted : lastLimit backward = some dst.limit ∨
    (lastLimit backward = none ∧
      (src.sent + src.allowance = dst.limit ∨ dst.window.toNat ≤ dataCount forward))

lemma Synced.quiescent (synced : Synced src dst [] []) : src.allowance = dst.window ∧ src.sent = dst.received := by
  have same : dst.received = src.sent := synced.marked
  have window := synced.isOpen
  rcases synced.granted with noted | ⟨_,spent | full⟩
  · cases noted
  · refine ⟨?_,same.symm⟩
    simp only [Peer.limit,same] at spent
    grind
  · simp only [dataCount,UInt32.le_iff_toNat_le,UInt32.toNat_one] at full window
    omega

section

variable (synced : Synced src dst forward backward)

include synced

private lemma Synced.spend :
    Synced src.spend dst (forward ++ [.data]) backward := by
  refine ⟨synced.marked.append rfl,synced.isOpen,?_⟩
  rcases synced.granted with noted | ⟨unnoted,spent | full⟩
  · exact .inl noted
  · refine .inr ⟨unnoted,?_⟩
    by_cases allowed : 1 ≤ src.allowance
    · left
      simp only [Peer.spend,allowed,if_true]
      rw [← spent]
      grind
    -- Nothing is allowed any more, so what is under way already fills the window.
    right
    have none_left : src.allowance = 0 := by
      simp only [UInt32.le_iff_toNat_le,UInt32.toNat_one] at allowed
      apply UInt32.toNat.inj
      change src.allowance.toNat = 0
      omega
    have reached := synced.marked.sent_eq
    have filled : dst.window = UInt32.ofNat (dataCount forward) := by
      simp only [none_left,Peer.limit,reached] at spent
      grind
    have bound : dst.window.toNat = dataCount forward % 2^32 := by
      rw [filled]
      exact UInt32.toNat_ofNat'
    have := Nat.mod_le (dataCount forward) (2^32)
    simp only [dataCount_append,dataCount]
    omega
  · refine .inr ⟨unnoted,.inr ?_⟩
    simp only [dataCount_append,dataCount]
    omega

lemma Synced.emit (emits : Emits src items next) :
    Synced next dst (forward ++ items) backward := by
  induction emits generalizing forward with
  | done => simpa using synced
  | data _ ih => simpa using ih synced.spend
  | @note p q items _ ih =>
    have marked : Synced p dst (forward ++ [.note p.sent p.limit]) backward := by
      refine ⟨synced.marked.append ⟨rfl,rfl⟩,synced.isOpen,?_⟩
      simpa [dataCount] using synced.granted
    simpa using ih marked
  | @other p q items _ ih =>
    have marked : Synced p dst (forward ++ [.other]) backward := by
      refine ⟨synced.marked.append rfl,synced.isOpen,?_⟩
      simpa [dataCount] using synced.granted
    simpa using ih marked

lemma Synced.advertise (emits : Emits dst items next) :
    Synced src next forward (backward ++ items) := by
  induction emits generalizing backward with
  | done => simpa using synced
  | @data p q items _ ih =>
    have spent : Synced src p.spend forward (backward ++ [.data]) := by
      refine ⟨synced.marked,synced.isOpen,?_⟩
      rw [lastLimit_append]
      exact synced.granted
    simpa using ih spent
  | @note p q items _ ih =>
    have noted : Synced src p forward (backward ++ [.note p.sent p.limit]) :=
      ⟨synced.marked,synced.isOpen,.inl (by simp [lastLimit_append,lastLimit])⟩
    simpa using ih noted
  | @other p q items _ ih =>
    have same : Synced src p forward (backward ++ [.other]) := by
      refine ⟨synced.marked,synced.isOpen,?_⟩
      rw [lastLimit_append]
      exact synced.granted
    simpa using ih same

end

lemma count_limit (isOpen : 1 ≤ p.window) : p.count.limit = p.limit := by
  simp only [Peer.count,Peer.limit,isOpen,if_true]
  grind

lemma count_window (isOpen : 1 ≤ p.window) : p.count.window.toNat + 1 = p.window.toNat := by
  have down : (p.window - 1).toNat = p.window.toNat - 1 := UInt32.toNat_sub_of_le _ _ isOpen
  simp only [UInt32.le_iff_toNat_le,UInt32.toNat_one] at isOpen
  simp only [Peer.count,UInt32.le_iff_toNat_le,UInt32.toNat_one,isOpen,if_true]
  omega

lemma max_same (n : UInt32) : max n n = n := by
  change (if n ≤ n then n else n) = n
  exact ite_self n

lemma one_le_max (n : UInt32) : 1 ≤ max n 1 := by
  change 1 ≤ if n ≤ 1 then 1 else n
  split
  · exact UInt32.le_refl 1
  next above =>
    exact UInt32.le_of_lt (UInt32.not_le.mp above)

lemma one_le_of_ne_zero {n : UInt32} (nonzero : n ≠ 0) : 1 ≤ n := by
  rw [UInt32.le_iff_toNat_le,UInt32.toNat_one]
  have : n.toNat ≠ 0 := fun zero => nonzero (UInt32.toNat.inj zero)
  omega

lemma Synced.receive (synced : Synced src dst (item::forward) backward) (absorbs : Absorbs dst item items next) :
    Synced src next forward (backward ++ items) := by
  have isOpen := synced.isOpen
  cases absorbs with
  | data more rest =>
    refine Synced.advertise ⟨synced.marked,one_le_of_ne_zero more,?_⟩ rest
    rw [count_limit isOpen]
    have less := count_window isOpen
    rcases synced.granted with noted | ⟨unnoted,spent | full⟩
    · exact .inl noted
    · exact .inr ⟨unnoted,.inl spent⟩
    refine .inr ⟨unnoted,.inr ?_⟩
    simp only [dataCount] at full
    omega
  | exhausted spent rest =>
    have reopened : Synced src dst.count.reopen forward
        (backward ++ [.note dst.count.reopen.sent dst.count.reopen.limit]) := by
      refine ⟨synced.marked,?_,.inl (by simp [lastLimit_append,lastLimit])⟩
      exact one_le_max _
    simpa using reopened.advertise rest
  | @note q sent limit items rest =>
    have here : sent = dst.received := synced.marked.1
    have same : (dst.learn sent limit).received = dst.received := by
      rw [here]
      exact max_same _
    have learnt : Synced src (dst.learn sent limit) forward backward := by
      refine ⟨?_,isOpen,?_⟩
      · rw [same]
        exact synced.marked.2
      · rw [Peer.limit,same]
        exact synced.granted
    exact learnt.advertise rest
  | other rest => exact Synced.advertise ⟨synced.marked,isOpen,synced.granted⟩ rest

lemma Synced.hear (synced : Synced src dst forward (item::backward)) (absorbs : Absorbs src item items next) :
    Synced next dst (forward ++ items) backward := by
  cases absorbs with
  | data more rest =>
    have counted : Synced src.count dst forward backward := {synced with}
    exact counted.emit rest
  | exhausted spent rest =>
    have counted : Synced src.count.reopen dst forward backward := {synced with}
    exact counted.emit (.note rest)
  | @note q sent limit items rest =>
    have last : (lastLimit backward).getD limit = dst.limit := by
      rcases synced.granted with noted | ⟨unnoted,_⟩
      · exact Option.some.inj noted
      · cases unnoted
    have learnt : Synced (src.learn sent limit) dst forward backward := by
      refine ⟨synced.marked,synced.isOpen,?_⟩
      cases pending : lastLimit backward with
      | some =>
        rw [pending] at last
        exact .inl (congrArg some last)
      | none =>
        rw [pending] at last
        refine .inr ⟨rfl,.inl ?_⟩
        change src.sent + (limit - src.sent) = dst.limit
        rw [← last]
        change src.sent + (limit - src.sent) = limit
        grind
    exact learnt.emit rest
  | other rest => exact Synced.emit {synced with} rest

/-- Items come in whole units, and so the window is what the units under way leave of it. -/
def Aligned (unit : Nat) (dst : Peer) (forward : List Item) : Prop :=
  dst.window.toNat % unit = dataCount forward % unit

lemma Aligned.emit (aligned : Aligned unit dst forward) (whole : unit ∣ dataCount items) :
    Aligned unit dst (forward ++ items) := by
  obtain ⟨_,count⟩ := whole
  rw [Aligned,dataCount_append,count,Nat.add_mul_mod_self_left]
  exact aligned

lemma Aligned.emitted (aligned : Aligned unit dst forward) (emits : Emits dst items next) :
    Aligned unit next forward := by
  rw [Aligned,emits.frame.2.1]
  exact aligned

lemma Aligned.receive (aligned : Aligned unit dst (item::forward)) (isOpen : 1 ≤ dst.window)
    (refill : unit ∣ (max dst.refill 1).toNat) (absorbs : Absorbs dst item items next) :
    Aligned unit next forward := by
  have one_less : ∀ window count, (window + 1) % unit = (count + 1) % unit → window % unit = count % unit :=
    fun _ _ same => Nat.ModEq.add_right_cancel' 1 same
  cases absorbs with
  | data more rest =>
    refine Aligned.emitted ?_ rest
    apply one_less
    rw [count_window isOpen]
    exact aligned
  | exhausted spent rest =>
    refine Aligned.emitted ?_ rest
    have last : (0 : Nat) % unit = dataCount forward % unit := by
      apply one_less
      have zero : dst.count.window.toNat = 0 := congrArg UInt32.toNat spent
      rw [← zero,count_window isOpen]
      exact aligned
    rw [Aligned,← last]
    obtain ⟨_,whole⟩ := refill
    change (max dst.refill 1).toNat % unit = 0 % unit
    rw [whole,Nat.mul_mod_right,Nat.zero_mod]
  | note rest => exact Aligned.emitted (show Aligned unit (dst.learn _ _) forward from aligned) rest
  | other rest => exact Aligned.emitted aligned rest

lemma Absorbs.refill (absorbs : Absorbs p item items q) : q.refill = p.refill := by
  cases absorbs with
  | data _ rest => exact rest.frame.2.2
  | exhausted _ rest => exact rest.frame.2.2
  | note rest => exact rest.frame.2.2
  | other rest => exact rest.frame.2.2

end Window
