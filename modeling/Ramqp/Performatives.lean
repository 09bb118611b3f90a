import Ramqp.Composites

/-! Every performative, SASL frame, delivery state, outcome, source, target and coordinator survives the wire. -/
namespace Ramqp.Wire

open Composite List Value

open Parser (Reads)

section Admissible

def FieldMap.Admissible (entries : FieldMap) : Prop := ∀ entry ∈ entries, RoundTrips entry.2

def Error.Admissible (x : Error) : Prop := x.condition.Admissible ∧ ∀ m, x.info = some m → FieldMap.Admissible m

def Rejected.Admissible (x : Rejected) : Prop := ∀ error, x.error = some error → error.Admissible

def Modified.Admissible (x : Modified) : Prop := ∀ m, x.messageAnnotations = some m → FieldMap.Admissible m

def Outcome.Admissible : Outcome → Prop
  | rejected body => body.Admissible
  | modified body => body.Admissible
  | _ => True

def Foreign : Value → Prop
  | .ulong code => code ∉ [0x23,0x24,0x25,0x26,0x27]
  | .symbol _ => True
  | _ => False

def DeliveryState.Admissible : DeliveryState → Prop
  | rejected body => body.Admissible
  | modified body => body.Admissible
  | other value => RoundTrips value ∧ ∃ descriptor body, value = .described descriptor body ∧ Foreign descriptor
  | _ => True

def Source.Admissible (x : Source) : Prop :=
  (∀ m, x.dynamicNodeProperties = some m → FieldMap.Admissible m) ∧ (∀ m, x.filter = some m → FieldMap.Admissible m) ∧
    ∀ outcome, x.defaultOutcome = some outcome → outcome.Admissible

def Target.Admissible (x : Target) : Prop := ∀ m, x.dynamicNodeProperties = some m → FieldMap.Admissible m

def TargetArchetype.Admissible : TargetArchetype → Prop
  | target body => body.Admissible
  | coordinator _ => True

def Attach.Admissible (x : Attach) : Prop :=
  (∀ source, x.source = some source → source.Admissible) ∧ (∀ target, x.target = some target → target.Admissible) ∧
    (∀ m, x.unsettled = some m → ∀ entry ∈ m, DeliveryState.Admissible entry.2) ∧
    ∀ m, x.properties = some m → FieldMap.Admissible m

def Performative.Admissible : Performative → Prop
  | open_ body => ∀ m, body.properties = some m → FieldMap.Admissible m
  | begin_ body => ∀ m, body.properties = some m → FieldMap.Admissible m
  | attach body => body.Admissible
  | flow body => ∀ m, body.properties = some m → FieldMap.Admissible m
  | transfer body => ∀ state, body.state = some state → state.Admissible
  | disposition body => ∀ state, body.state = some state → state.Admissible
  | detach body => ∀ error, body.error = some error → error.Admissible
  | end_ body => ∀ error, body.error = some error → error.Admissible
  | close body => ∀ error, body.error = some error → error.Admissible

end Admissible

section Extended

/-! The forms with further fields. -/

def Outcome.extended : Outcome → List Bytes → Bytes
  | accepted body => Accepted.composite.extended body
  | rejected body => Rejected.composite.extended body
  | released body => Released.composite.extended body
  | modified body => Modified.composite.extended body

/-- A state of another kind is any described value, which need not be a list of fields. -/
def DeliveryState.extended : DeliveryState → List Bytes → Option Bytes
  | received body,more => some (Received.composite.extended body more)
  | accepted body,more => some (Accepted.composite.extended body more)
  | rejected body,more => some (Rejected.composite.extended body more)
  | released body,more => some (Released.composite.extended body more)
  | modified body,more => some (Modified.composite.extended body more)
  | other _,_ => none

def Performative.extended : Performative → List Bytes → Bytes
  | open_ body => Open.composite.extended body
  | begin_ body => Begin.composite.extended body
  | attach body => Attach.composite.extended body
  | flow body => Flow.composite.extended body
  | transfer body => Transfer.composite.extended body
  | disposition body => Disposition.composite.extended body
  | detach body => Detach.composite.extended body
  | end_ body => End.composite.extended body
  | close body => Close.composite.extended body

def SaslFrame.extended : SaslFrame → List Bytes → Bytes
  | mechanisms body => SaslMechanisms.composite.extended body
  | init body => SaslInit.composite.extended body
  | challenge body => SaslChallenge.composite.extended body
  | response body => SaslResponse.composite.extended body
  | outcome body => SaslOutcome.composite.extended body

end Extended

section States

variable {x : DeliveryState}

lemma carried_fieldMap {entries : FieldMap} (admissible : FieldMap.Admissible entries) : Carried entries :=
  carried_map (fun entry _ => carried_symbol entry.1) fun entry member => ⟨admissible entry member,toVec_ne_nil⟩

lemma Error.sound {x : Error} (admissible : x.Admissible) : Error.composite.fields.Sound (Error.composite.parts x) :=
  ⟨carried_condition admissible.1,fun text _ => carried_string text,fun m same => carried_fieldMap (admissible.2 m same),
    trivial⟩

lemma carried_error {x : Error} (admissible : x.Admissible) : Carried x := carried (Error.sound admissible)

lemma Rejected.sound {x : Rejected} (admissible : x.Admissible) :
    Rejected.composite.fields.Sound (Rejected.composite.parts x) :=
  ⟨fun error same => carried_error (admissible error same),trivial⟩

lemma Modified.sound {x : Modified} (admissible : x.Admissible) :
    Modified.composite.fields.Sound (Modified.composite.parts x) :=
  ⟨fun b _ => carried_bool b,fun b _ => carried_bool b,fun m same => carried_fieldMap (admissible m same),trivial⟩

lemma Outcome.survives {x : Outcome} (admissible : x.Admissible) :
    Survives decode x (toVec x) (fun more => some (x.extended more)) := by
  cases x with
  | accepted => exact survives_as (c := Accepted.composite) (f := accepted) trivial (peek_bind _ _)
  | rejected => exact survives_as (f := rejected) (Rejected.sound admissible) (peek_bind _ _)
  | released => exact survives_as (c := Released.composite) (f := released) trivial (peek_bind _ _)
  | modified => exact survives_as (f := modified) (Modified.sound admissible) (peek_bind _ _)

lemma Outcome.written (x : Outcome) : ∃ octets, toVec x = coded .described octets := by
  cases x <;> exact write_coded

lemma carried_outcome {x : Outcome} (admissible : x.Admissible) : Carried x :=
  (Outcome.survives admissible).carried x.written

lemma reads_ulongDescriptor (code : UInt64) : Reads decodeDescriptor (toVec (ulong code)) (.code code) := by
  have fits : (toVec code).length < 2^32 := by
    rcases toVec_ulong code with ⟨_,written⟩ | ⟨_,written⟩ | ⟨_,written⟩ <;>
      exact (congrArg length written).trans_lt (by simp [coded])
  intro rest
  have read := (roundTrips_u64 code fits).map Descriptor.code rest
  rcases toVec_ulong code with ⟨_,written⟩ | ⟨_,written⟩ | ⟨_,written⟩ <;>
  · change toVec code = _ at written
    rw [written] at read
    rw [show toVec (ulong code) = toVec code from rfl,written,← read]
    simp only [decodeDescriptor,peekCode_coded]

lemma reads_symbolDescriptor {symbol : Symbol} (fits : (toVec symbol).length < 2^32) :
    Reads decodeDescriptor (toVec (Value.symbol symbol)) (.symbol symbol) := by
  intro rest
  have read := (roundTrips_symbol symbol fits).map Descriptor.symbol rest
  rcases encodeVar_cases .sym8 .sym32 (asBytes symbol.text) with ⟨_,written⟩ | ⟨_,written⟩ <;>
  · change toVec symbol = _ at written
    rw [written] at read
    rw [show toVec (Value.symbol symbol) = toVec symbol from rfl,written,← read]
    simp only [decodeDescriptor,peekCode_coded]

lemma peekDescriptor_reads {descriptor : Descriptor} {octets : Bytes}
    (read : Reads decodeDescriptor octets descriptor) (rest : Bytes) :
    peekDescriptor (coded .described (octets ++ rest)) = .ok (descriptor,coded .described (octets ++ rest)) := by
  have head : Reads describedHeader (coded .described octets) descriptor := by
    apply reads_coded
    rw [if_pos rfl]
    exact read
  rw [peekDescriptor,show describedHeader (coded .described (octets ++ rest)) = _ from head rest]

lemma decode_foreign {descriptor body : Value} (foreign : Foreign descriptor)
    (fits : (toVec descriptor).length < 2^32) (rest : Bytes) :
    (decode : Decoder DeliveryState) (toVec (described descriptor body) ++ rest) =
      (DeliveryState.other <$> (decode : Decoder Value)) (toVec (described descriptor body) ++ rest) := by
  have shape : toVec (described descriptor body) ++ rest =
      coded .described (toVec descriptor ++ (toVec body ++ rest)) := by
    rw [toVec_described]
    simp [coded]
  rw [shape]
  cases descriptor with
  | ulong code =>
    simp only [mem_cons,not_mem_nil,or_false,not_or,Foreign] at foreign
    refine (Parser.bind_of_ok (peekDescriptor_reads (reads_ulongDescriptor code) _)).trans (congrFun ?_ _)
    split <;> simp_all
  | symbol => exact Parser.bind_of_ok (peekDescriptor_reads (reads_symbolDescriptor fits) _)
  | _ => cases foreign

lemma DeliveryState.survives (admissible : x.Admissible) : Survives decode x (toVec x) x.extended := by
  cases x with
  | received =>
    exact survives_as (c := Received.composite) (f := received) ⟨carried_u32 _,carried_u64 _,trivial⟩ (peek_bind _ _)
  | accepted => exact survives_as (c := Accepted.composite) (f := accepted) trivial (peek_bind _ _)
  | rejected => exact survives_as (f := rejected) (Rejected.sound admissible) (peek_bind _ _)
  | released => exact survives_as (c := Released.composite) (f := released) trivial (peek_bind _ _)
  | modified => exact survives_as (f := modified) (Modified.sound admissible) (peek_bind _ _)
  | other =>
    obtain ⟨reads,descriptor,body,rfl,foreign⟩ := admissible
    refine ⟨fun small rest => ?_,fun _ _ _ absent => nomatch absent⟩
    have inside : (toVec descriptor).length ≤ (toVec (described descriptor body)).length := by
      rw [toVec_described]
      simp only [coded,length_cons,length_append]
      omega
    exact (decode_foreign foreign (inside.trans_lt small) rest).trans ((reads small).map other rest)

lemma DeliveryState.written (admissible : x.Admissible) : ∃ octets, toVec x = coded .described octets := by
  cases x with
  | other =>
    obtain ⟨_,descriptor,body,rfl,_⟩ := admissible
    exact ⟨_,toVec_described descriptor body⟩
  | _ => exact write_coded

lemma carried_state (admissible : x.Admissible) : Carried x :=
  (DeliveryState.survives admissible).carried (DeliveryState.written admissible)

end States

section Transport

lemma Source.sound {x : Source} (admissible : x.Admissible) : Source.composite.fields.Sound (Source.composite.parts x) :=
  ⟨fun text _ => carried_string text,carried_u32 _,carried_symbol _,carried_u32 _,carried_bool _,
    fun m same => carried_fieldMap (admissible.1 m same),fun symbol _ => carried_symbol symbol,
    fun m same => carried_fieldMap (admissible.2.1 m same),
    fun outcome same => carried_outcome (admissible.2.2 outcome same),trivial,trivial,trivial⟩

lemma Target.sound {x : Target} (admissible : x.Admissible) : Target.composite.fields.Sound (Target.composite.parts x) :=
  ⟨fun text _ => carried_string text,carried_u32 _,carried_symbol _,carried_u32 _,carried_bool _,
    fun m same => carried_fieldMap (admissible m same),trivial,trivial⟩

lemma Coordinator.sound (x : Coordinator) : Coordinator.composite.fields.Sound (Coordinator.composite.parts x) :=
  ⟨trivial,trivial⟩

lemma TargetArchetype.survives {x : TargetArchetype} (admissible : x.Admissible) :
    ∃ extended, Survives decode x (toVec x) extended := by
  cases x with
  | target => exact ⟨_,survives_as (f := target) (Target.sound admissible) (peek_bind _ _)⟩
  | coordinator body => exact ⟨_,survives_as (f := coordinator) (Coordinator.sound body) (peek_bind _ _)⟩

lemma carried_target {x : TargetArchetype} (admissible : x.Admissible) : Carried x := by
  obtain ⟨_,survives⟩ := TargetArchetype.survives admissible
  refine survives.carried ?_
  cases x <;> exact write_coded

lemma carried_unsettled {entries : List (Bytes × DeliveryState)} (admissible : ∀ entry ∈ entries, entry.2.Admissible) :
    Carried entries :=
  carried_map (fun entry _ => carried_bytes entry.1) fun entry member =>
    have state := carried_state (admissible entry member)
    ⟨state.1,state.ne_nil⟩

lemma Attach.sound {x : Attach} (admissible : x.Admissible) : Attach.composite.fields.Sound (Attach.composite.parts x) :=
  ⟨carried_string _,carried_u32 _,carried_role _,carried_senderSettleMode _,carried_receiverSettleMode _,
    fun source same => carried (Source.sound (admissible.1 source same)),
    fun target same => carried_target (admissible.2.1 target same),
    fun m same => carried_unsettled (admissible.2.2.1 m same),carried_bool _,fun n _ => carried_u32 n,
    fun n _ => carried_u64 n,trivial,trivial,fun m same => carried_fieldMap (admissible.2.2.2 m same),trivial⟩

lemma Performative.survives {x : Performative} (admissible : x.Admissible) :
    Survives decode x (toVec x) (fun more => some (x.extended more)) := by
  cases x with
  | open_ =>
    exact survives_as (c := Open.composite) (f := open_) ⟨carried_string _,fun text _ => carried_string text,
      carried_u32 _,carried_u16 _,fun n _ => carried_u32 n,trivial,trivial,trivial,trivial,
      fun m same => carried_fieldMap (admissible m same),trivial⟩ (peek_bind _ _)
  | begin_ =>
    exact survives_as (c := Begin.composite) (f := begin_) ⟨fun n _ => carried_u16 n,carried_u32 _,
      carried_u32 _,carried_u32 _,carried_u32 _,trivial,trivial,fun m same => carried_fieldMap (admissible m same),
      trivial⟩ (peek_bind _ _)
  | attach => exact survives_as (f := attach) (Attach.sound admissible) (peek_bind _ _)
  | flow =>
    exact survives_as (c := Flow.composite) (f := flow) ⟨fun n _ => carried_u32 n,carried_u32 _,
      carried_u32 _,carried_u32 _,fun n _ => carried_u32 n,fun n _ => carried_u32 n,fun n _ => carried_u32 n,
      fun n _ => carried_u32 n,carried_bool _,carried_bool _,fun m same => carried_fieldMap (admissible m same),
      trivial⟩ (peek_bind _ _)
  | transfer =>
    exact survives_as (c := Transfer.composite) (f := transfer) ⟨carried_u32 _,fun n _ => carried_u32 n,
      fun tag _ => carried_bytes tag,fun n _ => carried_u32 n,fun b _ => carried_bool b,carried_bool _,
      fun mode _ => carried_receiverSettleMode mode,fun state same => carried_state (admissible state same),
      carried_bool _,carried_bool _,carried_bool _,trivial⟩ (peek_bind _ _)
  | disposition =>
    exact survives_as (c := Disposition.composite) (f := disposition) ⟨carried_role _,carried_u32 _,
      fun n _ => carried_u32 n,carried_bool _,fun state same => carried_state (admissible state same),carried_bool _,
      trivial⟩ (peek_bind _ _)
  | detach =>
    exact survives_as (c := Detach.composite) (f := detach) ⟨carried_u32 _,carried_bool _,
      fun error same => carried_error (admissible error same),trivial⟩ (peek_bind _ _)
  | end_ =>
    exact survives_as (c := End.composite) (f := end_)
      ⟨fun error same => carried_error (admissible error same),trivial⟩ (peek_bind _ _)
  | close =>
    exact survives_as (c := Close.composite) (f := close)
      ⟨fun error same => carried_error (admissible error same),trivial⟩ (peek_bind _ _)

lemma Performative.written (x : Performative) : ∃ octets, toVec x = coded .described octets := by
  cases x <;> exact write_coded

lemma SaslFrame.survives (x : SaslFrame) : Survives decode x (toVec x) (fun more => some (x.extended more)) := by
  cases x with
  | mechanisms =>
    exact survives_as (c := SaslMechanisms.composite) (f := mechanisms) ⟨trivial,trivial⟩ (peek_bind _ _)
  | init =>
    exact survives_as (c := SaslInit.composite) (f := init) ⟨carried_symbol _,
      fun response _ => carried_bytes response,fun text _ => carried_string text,trivial⟩ (peek_bind _ _)
  | challenge =>
    exact survives_as (c := SaslChallenge.composite) (f := challenge) ⟨carried_bytes _,trivial⟩ (peek_bind _ _)
  | response =>
    exact survives_as (c := SaslResponse.composite) (f := response) ⟨carried_bytes _,trivial⟩ (peek_bind _ _)
  | outcome =>
    exact survives_as (c := SaslOutcome.composite) (f := outcome) ⟨carried_saslCode _,
      fun data _ => carried_bytes data,trivial⟩ (peek_bind _ _)

end Transport

section Survival

/-- Everything that travels in a frame body is read back as it was written. -/
theorem composites_survive :
    (∀ x : Performative, x.Admissible → Survives decode x (toVec x) fun more => some (x.extended more)) ∧
    (∀ x : SaslFrame, Survives decode x (toVec x) fun more => some (x.extended more)) ∧
    (∀ x : DeliveryState, x.Admissible → Survives decode x (toVec x) x.extended) ∧
    (∀ x : Outcome, x.Admissible → Survives decode x (toVec x) fun more => some (x.extended more)) ∧
    (∀ x : Source, x.Admissible →
      Survives Source.composite.read x (Source.composite.write x []) fun more => some (Source.composite.extended x more)) ∧
    (∀ x : Target, x.Admissible →
      Survives Target.composite.read x (Target.composite.write x []) fun more => some (Target.composite.extended x more)) ∧
    ∀ x : Coordinator, Survives Coordinator.composite.read x (Coordinator.composite.write x [])
      fun more => some (Coordinator.composite.extended x more) :=
  ⟨fun _ => Performative.survives,SaslFrame.survives,fun _ => DeliveryState.survives,fun _ => Outcome.survives,
    fun _ admissible => survives (Source.sound admissible),
    fun _ admissible => survives (Target.sound admissible),fun x => survives (Coordinator.sound x)⟩

/-- A detach with a custom condition, alone and with one field more than the protocol knows. -/
theorem composites_survive_detach :
    let x := Performative.detach ⟨7,true,some ⟨.custom ⟨"queue:gone"⟩,none,none⟩⟩
    x.Admissible ∧ (decode : Decoder Performative) (toVec x) = .ok (x,[]) ∧
      (decode : Decoder Performative) (x.extended [toVec (3 : UInt32)]) = .ok (x,[]) := by
  intro x
  have admissible : x.Admissible := by
    rintro _ ⟨⟩
    refine ⟨?_,fun _ absent => nomatch absent⟩
    rintro _ ⟨⟩
    decide
  have survives := composites_survive.1 x admissible
  exact ⟨admissible,(survives.1 (by decide +kernel)).alone,
    (survives.2 [toVec (3 : UInt32)] _ (by decide +kernel) rfl (by decide +kernel)).alone⟩

/-- A custom condition that spells a well-known one comes back as that one, and a state under a descriptor that is
neither a number nor a symbol is refused. -/
theorem custom_condition_renamed :
    (decode : Decoder Performative) (toVec (Performative.detach ⟨7,true,some ⟨.custom ⟨"amqp:not-found"⟩,none,none⟩⟩)) =
      .ok (.detach ⟨7,true,some ⟨.known .notFound,none,none⟩⟩,[]) ∧
    (decode : Decoder Value) (toVec (described (.uint 1) .null)) = .ok (.described (.uint 1) .null,[]) ∧
    (decode : Decoder DeliveryState) (toVec (DeliveryState.other (.described (.uint 1) .null))) =
      .error (.invalidFormatCode 0x52 "descriptor (ulong or symbol)") := by
  have written : toVec (Performative.detach ⟨7,true,some ⟨.custom ⟨"amqp:not-found"⟩,none,none⟩⟩) =
      toVec (Performative.detach ⟨7,true,some ⟨.known .notFound,none,none⟩⟩) := rfl
  have admissible : (Performative.detach ⟨7,true,some ⟨.known .notFound,none,none⟩⟩).Admissible := by
    rintro _ ⟨⟩
    exact ⟨fun _ same => (nomatch same),fun _ absent => nomatch absent⟩
  refine ⟨?_,rfl,rfl⟩
  rw [written]
  exact ((Performative.survives admissible).1 (by decide +kernel)).alone

end Survival

end Ramqp.Wire
