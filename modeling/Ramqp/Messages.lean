import Ramqp.Composites
import Ramqp.Semantics.Message

/-! Messages are read back section by section, and what is read is a sequence of sections in the canonical order,
all of which the message has. -/
namespace Ramqp.Wire

open List Parser Local SectionKind

open Parser (Reads Local)

section Locality

variable {α : Type}

lemma local_peek {p : Decoder α} (f : Option FormatCode → Decoder α) (same : ∀ buf, p buf = f (peekCode buf) buf)
    (inner : ∀ code, Local (f code)) (empty : ∀ code result, f code [] ≠ .ok result) : Local p := by
  intro s x rest read
  rw [same] at read
  obtain ⟨symbols,rfl,reads⟩ := inner _ _ _ _ read
  refine ⟨symbols,rfl,fun following => ?_⟩
  cases symbols with
  | nil => exact absurd (reads []) (empty _ _)
  | cons =>
    rw [same]
    exact reads following

lemma local_decodeVariable (code8 code32 : FormatCode) (expected : String) : Local (decodeVariable code8 code32 expected) := by
  refine local_readU8.bind fun code => ?_
  split
  · exact local_readU8.bind fun n => take
  split
  · exact local_readU32.bind fun n => take
  · exact throw _

lemma local_u64 : Local (decode : Decoder UInt64) := by
  refine local_readU8.bind fun code => ?_
  split
  · exact pure
  · exact local_readU8.map _
  · exact local_readU64
  · exact throw _

lemma local_symbol : Local (decode : Decoder Symbol) :=
  (local_decodeVariable _ _ _).bind fun raw => (local_utf8String raw "symbol").map _

private def descriptorAt : Option FormatCode → Decoder Descriptor
  | some .ulong0 | some .smallUlong | some .ulong => Descriptor.code <$> decode
  | some .sym8 | some .sym32 => Descriptor.symbol <$> decode
  | _ => fun
    | [] => .error (.eof 1)
    | code::_ => .error (.invalidFormatCode code "descriptor (ulong or symbol)")

lemma local_decodeDescriptor : Local decodeDescriptor := by
  refine local_peek descriptorAt (fun buf => ?_) (fun code => ?_) fun code result => ?_
  · unfold decodeDescriptor
    cases peekCode buf with
    | none => rfl
    | some code => cases code <;> rfl
  · unfold descriptorAt
    split
    · exact local_u64.map _
    · exact local_u64.map _
    · exact local_u64.map _
    · exact local_symbol.map _
    · exact local_symbol.map _
    · intro s x rest read
      cases s <;> cases read
  · unfold descriptorAt
    split <;> (intro same; cases same)

lemma local_describedHeader : Local describedHeader := by
  refine local_readU8.bind fun code => ?_
  split
  · exact local_decodeDescriptor
  · exact throw _

lemma local_expectDescriptor (expected : UInt64) : Local (expectDescriptor expected) := by
  refine local_describedHeader.bind fun descriptor => ?_
  split
  · exact pure
  · exact throw _

lemma local_readHeader (code8 code32 : FormatCode) (expected : String) : Local (readHeader code8 code32 expected) := by
  refine local_readU8.bind fun code => ?_
  dsimp only
  split
  · exact throw _
  · exact (local_readNat _).bind fun size => Local.take.bind fun body => Local.within

lemma skip_octet {x : α} {buf : Bytes} {code : FormatCode} (known : peekCode buf = some code) :
    ((fun _ => x) <$> readU8) buf = .ok (x,buf.tail) := by
  cases buf with
  | nil => cases known
  | cons first tail => exact (reads_octet first).map (fun _ => x) tail

lemma local_readListHeader : Local readListHeader := by
  refine local_peek (fun code => if code = some .list0 then (fun _ => (0,[])) <$> readU8 else readHeader .list8 .list32 "list")
    (fun buf => ?_) (fun code => ?_) fun code result => ?_
  · unfold readListHeader
    split
    · exact (skip_octet (by assumption)).symm
    · rfl
  · split
    · exact local_readU8.map _
    · exact local_readHeader _ _ _
  · split <;> (intro same; cases same)

lemma local_option [Decode α] (inner : Local (decode : Decoder α)) (empty : ∀ result, (decode : Decoder α) [] ≠ .ok result) :
    Local (decode : Decoder (Option α)) := by
  refine local_peek (fun code => if code = some .null then (fun _ => none) <$> readU8 else some <$> decode)
    (fun buf => ?_) (fun code => ?_) fun code result => ?_
  · change (if peekCode buf = some .null then .ok (none,buf.tail) else (some <$> (decode : Decoder α)) buf) = _
    split
    · exact (skip_octet (by assumption)).symm
    · rfl
  · split
    · exact local_readU8.map _
    · exact inner.map _
  split
  · intro same; cases same
  · intro read
    obtain ⟨_,read,-⟩ := map_eq_ok.mp read
    exact empty _ read

lemma local_entries {κ υ : Type} [Decode κ] [Decode υ] : Local (decode : Decoder (List (κ × υ))) := by
  refine (local_readHeader _ _ _).bind fun header => ?_
  dsimp only
  split
  · exact within
  · exact throw _

lemma local_value : Local (decode : Decoder Value) := local_decodeTyped (local_decodeValueBody _)

lemma Composite.local_read {σ : Type} (c : Composite σ) : Local c.read := by
  refine bind ?_ fun d => ?_
  · refine local_describedHeader.bind fun descriptor => ?_
    split
    · exact local_readListHeader.bind fun header => pure
    · exact throw _
  split
  · exact throw _
  · exact pure

lemma local_decodeDescribed [Decode α] (kind : SectionKind) (default : α) (inner : Local (decode : Decoder α))
    (empty : ∀ result, (decode : Decoder α) [] ≠ .ok result) : Local (decodeDescribed kind default) :=
  (local_expectDescriptor _).bind fun _ => (local_option inner empty).map _

lemma SectionKind.local_decode (kind : SectionKind) : Local kind.decode := by
  have entries {κ : Type} [Decode κ] (kind : SectionKind) : Local (decodeDescribed kind ([] : List (κ × Value))) :=
    local_decodeDescribed kind [] local_entries (by intro _ same; cases same)
  cases kind with
  | header | properties => exact (Composite.local_read _).map _
  | deliveryAnnotations | messageAnnotations | applicationProperties | footer => exact (entries _).map _
  | data => exact (local_decodeDescribed .data [] (local_decodeVariable _ _ _) (by intro _ same; cases same)).map _
  | amqpValue => exact (local_expectDescriptor _).bind fun _ => local_value.map _
  | amqpSequence =>
    refine (local_expectDescriptor _).bind fun _ => local_value.bind fun value => ?_
    split
    · exact pure
    · exact throw _

end Locality

section Sections

variable {kind : SectionKind}

lemma SectionKind.kind_decode {buf rest : Bytes} {s : Section} (read : kind.decode buf = .ok (s,rest)) :
    s.kind = kind := by
  cases kind with
  | amqpSequence =>
    obtain ⟨_,_,-,read⟩ := bind_eq_ok.mp read
    obtain ⟨_,_,-,read⟩ := bind_eq_ok.mp read
    split at read
    · cases read
      rfl
    · cases read
  | amqpValue =>
    obtain ⟨_,_,-,read⟩ := bind_eq_ok.mp read
    obtain ⟨_,-,rfl⟩ := map_eq_ok.mp read
    rfl
  | header | properties | deliveryAnnotations | messageAnnotations | applicationProperties | footer | data =>
    obtain ⟨_,-,rfl⟩ := map_eq_ok.mp read
    rfl

lemma SectionKind.decode_block {buf rest : Bytes} {s : Section} (read : kind.decode buf = .ok (s,rest)) :
    ∃ block, block ≠ [] ∧ buf = block ++ rest ∧ kind.decode block = .ok (s,[]) := by
  obtain ⟨block,rfl,reads⟩ := kind.local_decode buf s rest read
  refine ⟨block,?_,rfl,reads.alone⟩
  rintro rfl
  have absurd := reads []
  cases kind <;> cases absurd

@[simp] lemma SectionKind.ofCode_code (kind : SectionKind) : ofCode kind.code = some kind := by cases kind <;> rfl

lemma encodeDescribed_eq (kind : SectionKind) {body : Bytes → Bytes} (appends : ∀ buf, body buf = buf ++ body []) (buf : Bytes) :
    encodeDescribed kind body buf = buf ++ coded .described (encodeDescriptor kind.code ++ body []) := by
  rw [encodeDescribed,appends]
  simp [coded]

lemma Section.write_eq (s : Section) :
    ∃ octets, ∀ buf, s.write buf = buf ++ coded .described (encodeDescriptor s.kind.code ++ octets) := by
  cases s with
  | header | properties => exact ⟨_,fun buf => by rw [write,Composite.write_eq,Composite.write_listed]; rfl⟩
  | deliveryAnnotations entries => exact ⟨_,encodeDescribed_eq .deliveryAnnotations (encode_eq entries)⟩
  | messageAnnotations entries => exact ⟨_,encodeDescribed_eq .messageAnnotations (encode_eq entries)⟩
  | applicationProperties entries => exact ⟨_,encodeDescribed_eq .applicationProperties (encode_eq entries)⟩
  | footer entries => exact ⟨_,encodeDescribed_eq .footer (encode_eq entries)⟩
  | data bytes => exact ⟨_,encodeDescribed_eq .data (encode_eq bytes)⟩
  | amqpValue value => exact ⟨_,encodeDescribed_eq .amqpValue (encode_eq value)⟩
  | amqpSequence items => exact ⟨_,encodeDescribed_eq .amqpSequence (encodeValue_eq (.list items))⟩

def Section.RoundTrips (s : Section) : Prop := s.kind.decode (s.write []) = .ok (s,[])

def Section.Precedes (s t : Section) : Prop :=
  s.kind.rank < t.kind.rank ∨ (s.kind = t.kind ∧ (s.kind = .data ∨ s.kind = .amqpSequence))

end Sections

section Survival

lemma carried_timestamp (t : Timestamp) : Carried t := by
  refine ⟨fun _ => reads_coded ?_,.timestamp,_,rfl,by decide⟩
  exact (reads_readU64 t.ms.toUInt64).map fun n => (⟨n.toInt64⟩ : Timestamp)

lemma carried_uuid (id : Octets 16) : Carried id := ⟨fun _ => reads_coded (reads_fixed id),.uuid,_,rfl,by decide⟩

lemma carried_messageId (id : MessageId) : Carried id := by
  -- the constructor octet of each form leads to the decoder of that form
  have form {α : Type} [Encode α] [Decode α] {x : α} {code : FormatCode} {octets : Bytes} (f : α → MessageId)
      (inner : RoundTrips x) (same : toVec (f x) = toVec x) (written : toVec x = coded code octets) (solid : code ≠ .null)
      (chosen : ∀ buf, peekCode buf = some code → decode buf = (f <$> decode) buf) : Carried (f x) := by
    refine ⟨fun small rest => ?_,code,octets,same.trans written,solid⟩
    rw [same] at small ⊢
    rw [chosen _ (by rw [written,peekCode_coded])]
    exact (inner small).map f rest
  cases id with
  | ulong n =>
    rcases toVec_ulong n with ⟨_,written⟩ | ⟨_,written⟩ | ⟨_,written⟩ <;>
      exact form .ulong (roundTrips_u64 n) rfl written (by decide) fun buf known => by simp only [decode,known]
  | uuid id => exact form .uuid (carried_uuid id).1 rfl rfl (by decide) fun buf known => by simp only [decode,known]
  | binary bytes =>
    rcases encodeVar_cases .vbin8 .vbin32 bytes with ⟨_,written⟩ | ⟨_,written⟩ <;>
      exact form .binary roundTrips_bytes rfl written (by decide) fun buf known => by simp only [decode,known]
  | string text =>
    rcases encodeVar_cases .str8 .str32 (asBytes text) with ⟨_,written⟩ | ⟨_,written⟩ <;>
      exact form .string (roundTrips_string text) rfl written (by decide) fun buf known => by simp only [decode,known]

lemma reads_section {α β : Type} [Encode α] {x : α} {kind : SectionKind} {p : Decoder β} {y : β}
    (body : (toVec x).length < 2^32 → Reads p (toVec x) y)
    (small : (encodeDescribed kind (encode x) []).length < 2^32) :
    Reads (expectDescriptor kind.code >>= fun _ => p) (encodeDescribed kind (encode x) []) y := by
  have expected : Reads (expectDescriptor kind.code) (coded .described (encodeDescriptor kind.code)) () := by
    refine reads_describedHeader.bind_nil ?_
    rw [if_pos rfl]
    exact Reads.pure ()
  rw [encodeDescribed_eq kind (encode_eq x)] at small ⊢
  simp only [coded,nil_append,length_cons,length_append] at small
  exact expected.bind (body (by change (encode x []).length < _; omega))

lemma reads_option {α : Type} [Encode α] [Decode α] {x : α} (carried : Carried x) (small : (toVec x).length < 2^32) :
    Reads (decode : Decoder (Option α)) (toVec x) (some x) := by
  intro rest
  exact (if_neg (carried.not_null rest)).trans ((carried.1 small).map some rest)

def Section.Admissible : Section → Prop
  | deliveryAnnotations entries | messageAnnotations entries | footer entries => ∀ entry ∈ entries, Wire.RoundTrips entry.2
  | applicationProperties entries => ∀ entry ∈ entries, Wire.RoundTrips entry.2
  | amqpSequence items => Wire.RoundTrips (Value.list items)
  | amqpValue value => Wire.RoundTrips value
  | _ => True

lemma Header.sound (x : Header) : Header.composite.fields.Sound (Header.composite.parts x) :=
  ⟨carried_bool _,carried_u8 _,fun n _ => carried_u32 n,carried_bool _,carried_u32 _,trivial⟩

lemma Properties.sound (x : Properties) : Properties.composite.fields.Sound (Properties.composite.parts x) :=
  ⟨fun id _ => carried_messageId id,fun id _ => carried_bytes id,fun text _ => carried_string text,
    fun text _ => carried_string text,fun text _ => carried_string text,fun id _ => carried_messageId id,
    fun kind _ => carried_symbol kind,fun kind _ => carried_symbol kind,fun time _ => carried_timestamp time,
    fun time _ => carried_timestamp time,fun text _ => carried_string text,fun n _ => carried_u32 n,
    fun text _ => carried_string text,trivial⟩

lemma Section.roundTrips {s : Section} (admissible : s.Admissible) (small : (s.write []).length < 2^32) : s.RoundTrips := by
  have entries {κ : Type} [Encode κ] [Decode κ] {entries : List (κ × Value)} (keys : ∀ key : κ, Carried key)
      (values : ∀ entry ∈ entries, Wire.RoundTrips entry.2) : Carried entries :=
    carried_map (fun entry _ => keys entry.1) fun entry member => ⟨values entry member,toVec_ne_nil⟩
  refine Reads.alone ?_
  cases s with
  | header h => exact (Composite.reads_write h.sound small).map _
  | properties p => exact (Composite.reads_write p.sound small).map _
  | data bytes => exact (reads_section (fun fits => (reads_option (carried_bytes bytes) fits).map _) small).map _
  | applicationProperties _ =>
    exact (reads_section (fun fits => (reads_option (entries carried_string admissible) fits).map _) small).map _
  | deliveryAnnotations _ | messageAnnotations _ | footer _ =>
    exact (reads_section (fun fits => (reads_option (entries carried_symbol admissible) fits).map _) small).map _
  | amqpValue v => exact reads_section (fun fits => (admissible fits).map _) small
  | amqpSequence items =>
    exact reads_section (x := Value.list items) (fun fits => (admissible fits).bind_nil (Reads.pure _)) small

end Survival

namespace Message

lemma sections_canonical (m : Message) : m.sections.Pairwise Section.Precedes := by
  have single {β : Type} (f : β → Section) (o : Option β) : (o.toList.map f).Pairwise Section.Precedes := by
    cases o <;> simp
  have body : m.body.sections.Pairwise Section.Precedes := by
    cases m.body with
    | data => exact pairwise_map.mpr (pairwise_of_forall fun _ _ => .inr ⟨rfl,.inl rfl⟩)
    | sequence => exact pairwise_map.mpr (pairwise_of_forall fun _ _ => .inr ⟨rfl,.inr rfl⟩)
    | value => exact pairwise_singleton _ _
    | empty => exact .nil
  refine pairwise_flatten.mpr ⟨?_,?_⟩
  · simp [single,body]
  · cases m.body <;> simp [Body.sections,Section.Precedes,Section.kind,rank,bodyRank]

namespace Assembly

variable {a : Assembly} {buf rest : Bytes} {s : Section} {rounds : Nat}

variable {done : List Section}

def Admits (a : Assembly) (kind : SectionKind) : Prop :=
  ¬ kind.rank < a.maxRank ∧ ¬ (kind.rank = a.maxRank ∧ kind.rank ≠ SectionKind.bodyRank) ∧ a.mixes kind = false

def put (a : Assembly) (s : Section) : Assembly := {a with maxRank := s.kind.rank}.add s

lemma take_ok {next : Assembly} {kind : SectionKind} (read : a.take kind buf = .ok (next,rest)) :
    a.Admits kind ∧ ∃ s, kind.decode buf = .ok (s,rest) ∧ next = a.put s := by
  unfold take at read
  split_ifs at read with behind twice mixed
  · cases read
  · cases read
  · cases read
  obtain ⟨s,decoded,rfl⟩ := map_eq_ok.mp read
  refine ⟨⟨behind,twice,by simpa using mixed⟩,s,decoded,?_⟩
  rw [put,kind_decode decoded]

lemma take_of_admits (admits : a.Admits s.kind) (read : s.kind.decode buf = .ok (s,rest)) :
    a.take s.kind buf = .ok (a.put s,rest) := by
  obtain ⟨inOrder,once,unmixed⟩ := admits
  rw [take,if_neg inOrder,if_neg once,unmixed]
  exact map_eq_ok.mpr ⟨s,read,rfl⟩

lemma Admits.put {t : Section} (admits : a.Admits t.kind) (order : s.Precedes t) : (a.put s).Admits t.kind := by
  cases s <;> cases t <;> simp_all [Admits,put,add,mixes,Section.Precedes,Section.kind,rank,bodyRank]

lemma loop_complete {sections : List Section} (room : sections.length ≤ rounds)
    (order : sections.Pairwise Section.Precedes) (admits : ∀ s ∈ sections, a.Admits s.kind)
    (each : ∀ s ∈ sections, s.RoundTrips) :
    loop rounds a (sections.map (·.write [])).flatten = .ok ((sections.foldl put a).finish,[]) := by
  induction sections generalizing a rounds with
  | nil => cases rounds <;> rfl
  | cons s rest ih =>
    obtain ⟨rounds,rfl⟩ : ∃ n, rounds = n + 1 := ⟨rounds - 1,by simp at room; omega⟩
    obtain ⟨first,order⟩ := pairwise_cons.mp order
    obtain ⟨octets,written⟩ := s.write_eq
    obtain ⟨_,same,reads⟩ := s.kind.local_decode _ _ _ (each s mem_cons_self)
    rw [append_nil] at same
    subst same
    have peeked : peekDescriptor (s.write [] ++ (rest.map (·.write [])).flatten) =
        .ok (.code s.kind.code,s.write [] ++ (rest.map (·.write [])).flatten) := by
      rw [written [],nil_append]
      have := peekDescriptor_eq s.kind.code (octets ++ (rest.map (·.write [])).flatten)
      simpa [coded] using this
    rw [map_cons,flatten_cons,foldl_cons]
    simp only [loop,peeked,ofCode_code]
    rw [bind_of_ok (take_of_admits (admits s mem_cons_self) (reads _))]
    refine ih (by simpa using room) order (fun t member => ?_) fun t member => each t (mem_cons_of_mem _ member)
    exact (admits t (mem_cons_of_mem _ member)).put (first t member)

def Unmixed (a : Assembly) : Prop :=
  (a.msg.body = .empty ∧ (a.dataParts = [] ∨ a.seqParts = [])) ∨ (a.haveValue = true ∧ a.dataParts = [] ∧ a.seqParts = [])

lemma finish_sections (unmixed : a.Unmixed) :
    a.finish.sections = [a.msg.header.toList.map .header,a.msg.deliveryAnnotations.toList.map .deliveryAnnotations,
      a.msg.messageAnnotations.toList.map .messageAnnotations,a.msg.properties.toList.map .properties,
      a.msg.applicationProperties.toList.map .applicationProperties,
      a.dataParts.map .data ++ a.seqParts.map .amqpSequence ++ a.msg.body.sections,
      a.msg.footer.toList.map Section.footer].flatten := by
  rcases unmixed with ⟨empty,none | none⟩ | ⟨-,noData,noSequence⟩
  · by_cases parts : a.seqParts = [] <;> simp [finish,sections,Body.sections,empty,none,parts]
  · by_cases parts : a.dataParts = [] <;> simp [finish,sections,Body.sections,empty,none,parts]
  · simp [finish,sections,noData,noSequence]

lemma absent_of_low {limit : Int} (unmixed : a.Unmixed) (low : ∀ s ∈ a.finish.sections, s.kind.rank < limit) :
    (limit ≤ 0 → a.msg.header = none) ∧ (limit ≤ 1 → a.msg.deliveryAnnotations = none) ∧
    (limit ≤ 2 → a.msg.messageAnnotations = none) ∧ (limit ≤ 3 → a.msg.properties = none) ∧
    (limit ≤ 4 → a.msg.applicationProperties = none) ∧
    (limit ≤ 5 → a.dataParts = [] ∧ a.seqParts = [] ∧ a.msg.body.sections = []) ∧ (limit ≤ 6 → a.msg.footer = none) := by
  rw [finish_sections unmixed] at low
  have single {β : Type} {f : β → Section} {o : Option β} {rank : Int} (ranked : ∀ x, (f x).kind.rank = rank)
      (below : ∀ s ∈ o.toList.map f, s.kind.rank < limit) (high : limit ≤ rank) : o = none := by
    cases o with
    | none => rfl
    | some x => exact absurd (below (f x) (by simp)) (by rw [ranked]; omega)
  have body : ∀ s ∈ a.msg.body.sections, s.kind.rank = 5 := by
    cases a.msg.body <;> simp [Body.sections,Section.kind,SectionKind.rank,SectionKind.bodyRank]
  simp only [flatten_cons,flatten_nil,append_nil,mem_append,or_imp,forall_and] at low
  obtain ⟨header,delivery,annotations,properties,application,⟨⟨parts,sequences⟩,value⟩,footer⟩ := low
  refine ⟨single (fun _ => rfl) header,single (fun _ => rfl) delivery,single (fun _ => rfl) annotations,
    single (fun _ => rfl) properties,single (fun _ => rfl) application,fun high => ⟨?_,?_,?_⟩,single (fun _ => rfl) footer⟩
  · refine eq_nil_iff_forall_not_mem.mpr fun x member => ?_
    exact absurd (parts (.data x) (mem_map_of_mem member)) (not_lt.mpr high)
  · refine eq_nil_iff_forall_not_mem.mpr fun x member => ?_
    exact absurd (sequences (.amqpSequence x) (mem_map_of_mem member)) (not_lt.mpr high)
  · refine eq_nil_iff_forall_not_mem.mpr fun s member => ?_
    exact absurd (value s member) (by rw [body s member]; exact not_lt.mpr high)

structure Sound (a : Assembly) (done : List Section) : Prop where
  same : a.finish.sections = done
  ranks : ∀ s ∈ done, s.kind.rank ≤ a.maxRank
  unmixed : a.Unmixed
  value : a.haveValue = false → a.msg.body = .empty

lemma Sound.put (sound : a.Sound done) (admits : a.Admits s.kind) : (a.put s).Sound (done ++ [s]) := by
  obtain ⟨inOrder,once,unmixed⟩ := admits
  have top : (a.put s).maxRank = s.kind.rank := by cases s <;> rfl
  have ranks : ∀ t ∈ done ++ [s], t.kind.rank ≤ (a.put s).maxRank := by
    intro t member
    rw [top]
    rcases mem_append.mp member with before | last
    · exact (sound.ranks t before).trans (not_lt.mp inOrder)
    · rw [mem_singleton.mp last]
  have low : ∀ t ∈ a.finish.sections, t.kind.rank < if s.kind.rank = 5 then 6 else s.kind.rank := by
    intro t member
    have below := sound.ranks t (sound.same ▸ member)
    simp only [SectionKind.bodyRank] at once
    split <;> omega
  have value := sound.value
  have before := sound.unmixed
  have after : (a.put s).Unmixed := by
    cases s <;> simp_all [Unmixed,Assembly.put,add,mixes,Section.kind]
  refine ⟨?_,ranks,after,?_⟩
  · have absent := absent_of_low before low
    rw [← sound.same,finish_sections after,finish_sections before]
    clear ranks top before after low
    cases s <;> simp [Section.kind,SectionKind.rank,SectionKind.bodyRank] at absent <;>
      simp_all [Assembly.put,add,mixes,Section.kind,Body.sections]
  · cases s <;> simp_all [Assembly.put,add]

lemma loop_succ (a : Assembly) (rounds : Nat) (buf : Bytes) : loop (rounds + 1) a buf = match peekDescriptor buf with
    | .ok (.code code,_) => match ofCode code with
      | some kind => (a.take kind >>= loop rounds) buf
      | none => .ok (a.finish,buf)
    | _ => .ok (a.finish,buf) := rfl

lemma loop_sound {m : Message} (sound : a.Sound done) (read : loop rounds a buf = .ok (m,rest)) :
    ∃ blocks sections, buf = blocks.flatten ++ rest ∧
      List.Forall₂ (fun block s => s.kind.decode block = .ok (s,[])) blocks sections ∧ m.sections = done ++ sections := by
  have stop : a.finish.sections = done ++ [] := by rw [sound.same,append_nil]
  induction rounds generalizing a done buf with
  | zero =>
    cases read
    exact ⟨[],[],rfl,.nil,stop⟩
  | succ rounds ih =>
    rw [loop_succ] at read
    split at read
    · split at read
      · obtain ⟨_,_,taken,next⟩ := bind_eq_ok.mp read
        obtain ⟨admits,s,decoded,rfl⟩ := take_ok taken
        have same := kind_decode decoded
        subst same
        obtain ⟨block,-,rfl,alone⟩ := decode_block decoded
        have sound := sound.put admits
        obtain ⟨blocks,sections,rfl,each,all⟩ := ih sound next (by rw [sound.same,append_nil])
        exact ⟨block::blocks,s::sections,by simp,.cons alone each,by simpa using all⟩
      · cases read
        exact ⟨[],[],rfl,.nil,stop⟩
    · cases read
      exact ⟨[],[],rfl,.nil,stop⟩

lemma loop_rounds (room : buf.length ≤ rounds) : loop (rounds + 1) a buf = loop rounds a buf := by
  induction rounds generalizing a buf with
  | zero =>
    cases length_eq_zero_iff.mp (Nat.le_zero.mp room)
    rfl
  | succ rounds ih =>
    rw [loop_succ,loop_succ a rounds]
    split
    · split
      · refine bind_congr_of_ok fun next rest taken => ?_
        obtain ⟨-,s,decoded,-⟩ := take_ok taken
        obtain ⟨block,consumed,rfl,-⟩ := decode_block decoded
        have := length_pos_of_ne_nil consumed
        exact ih (by rw [length_append] at room; omega)
      · rfl
    · rfl

lemma finish_put (sections : List Section) (a : Assembly) (rank : Int) :
    (sections.foldl put {a with maxRank := rank}).finish = (sections.foldl add a).finish := by
  induction sections generalizing a rank with
  | nil => rfl
  | cons s rest ih =>
    have : put {a with maxRank := rank} s = {a.add s with maxRank := s.kind.rank} := by cases s <;> rfl
    rw [foldl_cons,this]
    exact ih (a.add s) _

end Assembly

/-- A data or sequence body without parts is not written. -/
def normal (m : Message) : Message :=
  match m.body with
  | .data [] | .sequence [] => {m with body := .empty}
  | _ => m

open Assembly in
lemma finish_sections_eq (m : Message) : (m.sections.foldl put {}).finish = m.normal := by
  have header (a : Assembly) : (m.header.toList.map .header).foldl add a =
      {a with msg := {a.msg with header := m.header.or a.msg.header}} := by cases m.header <;> rfl
  have delivery (a : Assembly) : (m.deliveryAnnotations.toList.map .deliveryAnnotations).foldl add a =
      {a with msg := {a.msg with deliveryAnnotations := m.deliveryAnnotations.or a.msg.deliveryAnnotations}} := by
    cases m.deliveryAnnotations <;> rfl
  have annotations (a : Assembly) : (m.messageAnnotations.toList.map .messageAnnotations).foldl add a =
      {a with msg := {a.msg with messageAnnotations := m.messageAnnotations.or a.msg.messageAnnotations}} := by
    cases m.messageAnnotations <;> rfl
  have properties (a : Assembly) : (m.properties.toList.map .properties).foldl add a =
      {a with msg := {a.msg with properties := m.properties.or a.msg.properties}} := by cases m.properties <;> rfl
  have application (a : Assembly) : (m.applicationProperties.toList.map .applicationProperties).foldl add a =
      {a with msg := {a.msg with applicationProperties := m.applicationProperties.or a.msg.applicationProperties}} := by
    cases m.applicationProperties <;> rfl
  have footer (a : Assembly) : (m.footer.toList.map .footer).foldl add a =
      {a with msg := {a.msg with footer := m.footer.or a.msg.footer}} := by cases m.footer <;> rfl
  have parts (parts : List Bytes) (a : Assembly) :
      (parts.map .data).foldl add a = {a with dataParts := a.dataParts ++ parts} := by
    induction parts generalizing a with
    | nil => simp
    | cons bytes rest ih => simp [ih,add]
  have sequences (parts : List (List Value)) (a : Assembly) :
      (parts.map .amqpSequence).foldl add a = {a with seqParts := a.seqParts ++ parts} := by
    induction parts generalizing a with
    | nil => simp
    | cons items rest ih => simp [ih,add]
  refine (finish_put m.sections {} (-1)).trans ?_
  simp only [sections,flatten_cons,flatten_nil,append_nil,foldl_append,header,delivery,annotations,
    properties,application,footer]
  obtain ⟨_,_,_,_,_,body,_⟩ := m
  cases body with
  | data all =>
    simp only [Body.sections,parts]
    cases all <;> simp [finish,normal]
  | sequence all =>
    simp only [Body.sections,sequences]
    cases all <;> simp [finish,normal]
  | value => simp [Body.sections,add,finish,normal]
  | empty => simp [Body.sections,finish,normal]

lemma write_eq (m : Message) (buf : Bytes) : m.write buf = buf ++ (m.sections.map (·.write [])).flatten := by
  unfold write
  induction m.sections generalizing buf with
  | nil => simp
  | cons s rest ih =>
    obtain ⟨_,written⟩ := s.write_eq
    rw [foldl_cons,ih]
    simp [written]

lemma sections_length_le (sections : List Section) : sections.length ≤ (sections.map (·.write [])).flatten.length := by
  induction sections with
  | nil => rfl
  | cons s rest ih =>
    obtain ⟨octets,written⟩ := s.write_eq
    simp only [map_cons,flatten_cons,length_append,length_cons,written,coded] at ih ⊢
    omega

/-- A message of sections that round-trip is read back, an empty data or sequence body as no body. What is read from any
octets is what its sections, one after the other and in the canonical order, are read as. -/
theorem sections_preserved :
    (∀ m : Message, (∀ s ∈ m.sections, s.RoundTrips) → read (m.write []) = .ok (m.normal,[])) ∧
    ∀ (buf rest : Bytes) (m : Message), read buf = .ok (m,rest) → ∃ blocks, buf = blocks.flatten ++ rest ∧
      List.Forall₂ (fun block s => s.kind.decode block = .ok (s,[])) blocks m.sections ∧
      m.sections.Pairwise Section.Precedes := by
  refine ⟨fun m each => ?_,fun buf rest m decoded => ?_⟩
  · rw [write_eq,nil_append,read,← finish_sections_eq]
    refine Assembly.loop_complete (sections_length_le _) m.sections_canonical (fun s _ => ?_) each
    cases s.kind <;> simp [Assembly.Admits,Assembly.mixes,SectionKind.rank,SectionKind.bodyRank]
  have start : ({} : Assembly).Sound [] := ⟨rfl,fun _ absurd => (by cases absurd),.inl ⟨rfl,.inl rfl⟩,fun _ => rfl⟩
  obtain ⟨blocks,_,split,each,all⟩ := Assembly.loop_sound start decoded
  rw [nil_append] at all
  subst all
  exact ⟨blocks,split,each,m.sections_canonical⟩

def twoParts : Message := {body := .data [[1,2],[3]]}

theorem sections_preserved_two_parts : read (twoParts.write []) = .ok (twoParts,[]) ∧
    ∃ blocks, twoParts.write [] = blocks.flatten ++ [] ∧
      List.Forall₂ (fun block s => s.kind.decode block = .ok (s,[])) blocks twoParts.sections ∧
      twoParts.sections.Pairwise Section.Precedes := by
  have each : ∀ s ∈ twoParts.sections, s.RoundTrips := by
    intro s member
    rcases mem_pair.mp member with rfl | rfl
    · exact Section.roundTrips trivial (by decide)
    · exact Section.roundTrips trivial (by decide)
  have decoded := sections_preserved.1 twoParts each
  exact ⟨decoded,sections_preserved.2 _ _ _ decoded⟩

end Message

end Ramqp.Wire
