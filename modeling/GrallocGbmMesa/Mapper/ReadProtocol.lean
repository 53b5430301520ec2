import GrallocGbmMesa.Mapper.MetadataFormat
import GrallocGbmMesa.Mapper.SharedBuffer

/-!
# Reading in two calls

A client asks for the size of a metadata value and then reads into a buffer of that size.  What
other calls do in between does not matter, as long as the buffer is not freed.
-/

namespace GrallocGbmMesa.Mapper

open ByteStream Checked TransitionSystem
open GrallocGbmMesa.Platform GrallocGbmMesa.Core

/-! ## What is provided can be decoded -/

/-- The vectors of the largest plane layouts. -/
def VectorRoom.Enough (room : VectorRoom) : Prop := 3 * 88 ≤ room.bytes

theorem isBytes_componentName : IsBytes (planeLayoutComponentType 0).name :=
  isBytes_of_short (by decide) (by decide)

theorem planeLayouts_decodable {room : VectorRoom} (enough : room.Enough)
    (gbmFormat stride width height : Word) :
    Decodable room .planeLayouts
      ((getPlaneLayouts gbmFormat).map (sizedPlane stride width height)) := by
  have table : ∀ entry ∈ planeLayoutsMap, entry.2.length ≤ 3 ∧
      ∀ layout ∈ entry.2, layout.components.length ≤ 4 := by
    decide +kernel
  have limit : intMax = 2147483647 := rfl
  unfold VectorRoom.Enough at enough
  simp only [Decodable, getPlaneLayouts, List.length_map]
  cases found : planeLayoutsMap.lookup gbmFormat with
  | none => simp [limit]
  | some layouts =>
      have hmem := PartialMap.lookup_mem found
      obtain ⟨planes, components⟩ := table _ hmem
      dsimp only at planes components
      rw [Option.getD_some]
      refine ⟨by omega, by omega, fun layout hlayout => ?_⟩
      obtain ⟨plane, hplane, rfl⟩ := List.mem_map.mp hlayout
      have few := components plane hplane
      have same : (sizedPlane stride width height plane).components = plane.components := rfl
      unfold PlaneFits
      rw [same]
      refine ⟨by omega, by omega, fun component hcomponent => ?_⟩
      rw [planeLayoutsMap_names _ hmem plane hplane component hcomponent]
      exact isBytes_componentName

theorem provided_decodable {room : VectorRoom} (enough : room.Enough) {s : Process} {buffer : Ptr}
    {hnd : NativeHandle} {metadata : GrallocMetadata} {type : StandardMetadataType}
    {value : type.valueType.Value}
    (h : provideValue s buffer hnd metadata type = .ok (some value)) :
    Decodable room type.valueType value := by
  cases type with
  | planeLayouts =>
      obtain ⟨format, -, h⟩ := bind_eq_ok.mp h
      obtain ⟨stride, -, h⟩ := bind_eq_ok.mp h
      obtain ⟨width, -, h⟩ := bind_eq_ok.mp h
      obtain ⟨height, -, h⟩ := bind_eq_ok.mp h
      cases h
      exact planeLayouts_decodable enough ..
  | crop =>
      obtain ⟨width, -, h⟩ := bind_eq_ok.mp h
      obtain ⟨height, -, h⟩ := bind_eq_ok.mp h
      cases h
      unfold VectorRoom.Enough at enough
      exact ⟨show 1 * 16 ≤ room.bytes by omega, show (1 : Int) ≤ intMax by decide⟩
  | compression | interlaced | chromaSiting =>
      cases h
      exact isBytes_of_short (by decide +kernel) (by decide +kernel)
  | name | smpte2094_40 | smpte2094_10 => cases h
  | _ => trivial

/-! ## Between two reads -/

theorem allocationSize_some {s : Process} {buffer : Ptr} {hnd : NativeHandle}
    {metadata : GrallocMetadata} {read : Option (BitVec 64)}
    (h : provideValue s buffer hnd metadata .allocationSize = .ok read) :
    ∃ value : BitVec 64, read = some value := by
  simp only [provideValue] at h
  cases hbo : grallocGetGbmBoFromHandle s buffer with
  | none =>
      rw [hbo] at h
      cases h
      exact ⟨_, rfl⟩
  | some p =>
      rw [hbo] at h
      obtain ⟨bo, -, h⟩ := bind_eq_ok.mp h
      cases h
      exact ⟨_, rfl⟩

theorem not_shared {type : StandardMetadataType} (own : ¬ Shared type) :
    type = .bufferId ∨ type = .allocationSize ∨ ∃ stored : StoredType, type = stored.type := by
  by_contra none
  obtain ⟨noId, none⟩ := not_or.mp none
  obtain ⟨noSize, notStored⟩ := not_or.mp none
  exact own ⟨noId, noSize, not_exists.mp notStored⟩

/-- Two providers of a buffer have a value of the type both or neither, and values of one size. -/
theorem Import.provided_again (entry : Import) {s s' : Process}
    {record record' : GrallocMetadata} {type : StandardMetadataType}
    {first second : Option type.valueType.Value}
    (hfirst : provideValue s entry.handle entry.native record type = .ok first)
    (hsecond : provideValue s' entry.handle entry.native record' type = .ok second) :
    (first = none ∧ second = none) ∨
      ∃ value value', first = some value ∧ second = some value' ∧
        (encoding type value).length = (encoding type value').length := by
  have sized {value value' : type.valueType.Value} {payload payload' : List (List Byte)}
      (hpayload : type.valueType.payload value = some payload)
      (hpayload' : type.valueType.payload value' = some payload')
      (same : payload.flatten.length = payload'.flatten.length) :
      (encoding type value).length = (encoding type value').length := by
    rw [encoding_length hpayload, encoding_length hpayload', same]
  by_cases shared : Shared type
  · have same := shared.provideValue_eq s s' entry.handle entry.handle entry.primeFd
      entry.primeFd entry.ints record record'
    have equal : first = second := Except.ok.inj (hfirst.symm.trans (same.trans hsecond))
    subst equal
    cases first with
    | none => exact .inl ⟨rfl, rfl⟩
    | some value => exact .inr ⟨value, value, rfl, rfl, rfl⟩
  · have long (value : BitVec 64) : (writeInt64 value).flatten.length = 8 := by simp [writeInt64]
    have word (value : Word) : (writeInt32 value).flatten.length = 4 := by simp [writeInt32]
    rcases not_shared shared with rfl | rfl | ⟨stored, rfl⟩
    · cases hfirst
      cases hsecond
      exact .inr ⟨_, _, rfl, rfl, rfl⟩
    · obtain ⟨value, rfl⟩ := allocationSize_some hfirst
      obtain ⟨value', rfl⟩ := allocationSize_some hsecond
      exact .inr ⟨_, _, rfl, rfl, sized rfl rfl ((long value).trans (long value').symm)⟩
    · cases stored with
      | dataspace | blendMode =>
          cases hfirst
          cases hsecond
          exact .inr ⟨_, _, rfl, rfl, sized rfl rfl ((word _).trans (word _).symm)⟩
      | smpte2086 =>
          cases hfirst
          cases hsecond
          exact .inr ⟨_, _, rfl, rfl, sized rfl rfl (by simp [writeSmpte2086, writeXyColor,
            writeInt32])⟩
      | cta861_3 =>
          cases hfirst
          cases hsecond
          exact .inr ⟨_, _, rfl, rfl, sized rfl rfl (by simp [writeCta861_3, writeInt32])⟩

/-- The handle that an event gives up. -/
def MapperEvent.freedHandle : MapperEvent → Option Ptr
  | ⟨.freeBuffer buffer _, .freed .none⟩ => some buffer
  | _ => none

/-- A handle is held until it is freed. -/
theorem MapperEvent.held {event : MapperEvent} {handles : List Ptr} {p : Ptr}
    (held : p ∈ handles) (kept : event.freedHandle ≠ some p) : p ∈ event.outstanding handles := by
  unfold MapperEvent.outstanding
  split
  · exact List.mem_append_left _ held
  · refine List.mem_filter.mpr ⟨held, ?_⟩
    rw [decide_eq_true_eq]
    rintro rfl
    exact kept rfl
  · exact held

/-- A buffer that is not freed keeps its entry. -/
theorem Ledger.run_keeps {base : Process} {imports : List Import} {entry : Import}
    {mid last : Session} {labels : List MapperEvent} (ledger : Ledger base imports mid.mapper)
    (outstanding : mid.outstanding = imports.map Import.handle) (hmem : entry ∈ imports)
    (run : Run mapperSystem mid labels last)
    (kept : ∀ event ∈ labels, event.freedHandle ≠ some entry.handle) :
    ∃ imports', Ledger base imports' last.mapper ∧ entry ∈ imports' := by
  obtain ⟨imports', ledger', -, held⟩ := run.guarded_invariant
    (fun session => ∃ imports', Ledger base imports' session.mapper ∧
      session.outstanding = imports'.map Import.handle ∧ entry ∈ imports')
    (fun event => event.freedHandle ≠ some entry.handle) kept
    ⟨imports, ledger, outstanding, hmem⟩ (by
      rintro state event next notFreed ⟨before, ledger, outstanding, hmem⟩ hstep
      obtain ⟨after, moved, ledger', outstanding'⟩ := ledger.step outstanding hstep
      refine ⟨after, ledger', outstanding', moved.keeps ledger.distinctHandles hmem ?_⟩
      rw [← outstanding', hstep.2.2]
      refine MapperEvent.held ?_ notFreed
      rw [outstanding]
      exact List.mem_map_of_mem hmem)
  exact ⟨imports', ledger', held⟩

/-- What a held buffer has of a type, and what a read of it gives. -/
theorem Ledger.read_cases {base : Process} {imports : List Import} {m : MapperState}
    {entry : Import} (ledger : Ledger base imports m) (hmem : entry ∈ imports)
    {type : StandardMetadataType} (valid : type ≠ .invalid) :
    ∃ provided, provideValue m.process entry.handle entry.native (m.record entry.primeFd) type =
        .ok provided ∧ ∀ outDataSize,
      m.read entry.handle type.value outDataSize = .ok (answerOf type outDataSize provided) := by
  have live : ∀ p, m.process.gbmBoHandleMap entry.handle = some p →
      m.process.bos p ≠ none := by
    intro p registered
    cases (ledger.registered hmem).symm.trans registered
    exact ledger.live hmem
  obtain ⟨provided, h⟩ := provideValue_defined (ledger.valid entry hmem).wellFormed.covers live
    (m.record entry.primeFd) type
  refine ⟨provided, h, fun outDataSize => ?_⟩
  rw [(ledger.readable hmem).read_eq valid, h]
  rfl

/-- A size that was asked for stays right.  Whatever other calls do in between, a read into a
buffer of this size is told the same size and finds a whole value, or both reads are refused. -/
theorem read_after_size {room : VectorRoom} (enough : room.Enough) {first mid last : Session}
    {before later : List MapperEvent} (initial : mapperSystem.initial first)
    (asking : Run mapperSystem first before mid) {p : Ptr} (held : p ∈ mid.outstanding)
    (between : Run mapperSystem mid later last)
    (kept : ∀ event ∈ later, event.freedHandle ≠ some p) {type : StandardMetadataType}
    (valid : type ≠ .invalid) {outDataSize : ℕ} {size : Int} {bytes : List Byte}
    (asked : mid.mapper.read p type.value outDataSize = .ok (size, bytes)) :
    (size = AIMapperError.unsupported.code ∧ ∀ destSize,
      last.mapper.read p type.value destSize = .ok (AIMapperError.unsupported.code, [])) ∨
    ∃ value, size = (encoding type value).length ∧ ∀ destSize,
      ∃ bytes', last.mapper.read p type.value destSize = .ok (size, bytes') ∧
        (size ≤ destSize → Mapper.decode room type bytes' = .ok (some value)) := by
  obtain ⟨imports, ledger, outstanding⟩ := mapperSystem_ledger initial asking
  rw [outstanding] at held
  obtain ⟨entry, hmem, rfl⟩ := List.mem_map.mp held
  obtain ⟨imports', ledger', hmem'⟩ := ledger.run_keeps outstanding hmem between kept
  obtain ⟨provided, hfirst, reads⟩ := ledger.read_cases hmem valid
  obtain ⟨provided', hsecond, reads'⟩ := ledger'.read_cases hmem' valid
  rw [reads] at asked
  rcases entry.provided_again hfirst hsecond with ⟨rfl, rfl⟩ | ⟨value, value', rfl, rfl, same⟩
  · cases asked
    exact .inl ⟨rfl, reads'⟩
  · have told : size = (encoding type value').length := by
      have size_eq : (encode type value outDataSize).1 = size :=
        congrArg Prod.fst (Except.ok.inj asked)
      rw [← size_eq, encode_desired (provided_fits hfirst), same]
    refine .inr ⟨value', told, fun destSize => ⟨(encode type value' destSize).2, ?_, ?_⟩⟩
    · rw [reads', told, ← encode_desired (provided_fits hsecond) destSize]
      rfl
    · intro fits
      rw [told] at fits
      exact decode_output (provided_decodable enough hsecond) (provided_fits hsecond)
        (Int.ofNat_le.mp fits)

def threePlanes : VectorRoom := ⟨3 * 88, by decide⟩

/-- The dataspace is set between the two reads. -/
theorem read_after_size_dataspace :
    ∃ value : Word, 73 = (encoding .dataspace value).length ∧ ∀ destSize : ℕ,
      ∃ bytes, (importedSession.next clientWrite).mapper.read 16
          StandardMetadataType.dataspace.value destSize = .ok (73, bytes) ∧
        ((73 : Int) ≤ destSize →
          Mapper.decode threePlanes .dataspace bytes = .ok (some value)) := by
  have held : 16 ∈ importedSession.outstanding := by decide +kernel
  have hwrite : mapperSystem.step importedSession ⟨clientWrite, .written .none⟩
      (importedSession.next clientWrite) :=
    Session.next_step (show 16 ∈ importedSession.outstanding from held) (by decide +kernel)
  have asked : importedSession.mapper.read 16 StandardMetadataType.dataspace.value 0 =
      .ok (73, []) := by rfl
  have enough : threePlanes.Enough := Nat.le_refl (3 * 88)
  rcases read_after_size enough startedSession_initial
      (.single importedSession_step) held (.single hwrite)
      (List.forall_mem_singleton.mpr nofun) (nofun : StandardMetadataType.dataspace ≠ .invalid)
      asked with ⟨refused, -⟩ | ⟨value, size, reads⟩
  · exact absurd refused (by decide)
  · exact ⟨value, Int.natCast_inj.mp size, reads⟩

end GrallocGbmMesa.Mapper
