import Nozomi.Vdec.PushInput.Code

/-!
# Buffers on their way

Whatever the codec, the source buffers go through the component in the order in which they were sent,
and every destination is in `pdest_frame`, in `m_input_free_q` or at the driver. The two events move
buffers around and leave the work on the frame in progress alone.
-/

namespace Nozomi

namespace PushInput

def EosLast : List BufferHeader → Prop
  | [] => False
  | source :: rest => if source.hasEos then rest = [] else EosLast rest

variable {source : BufferHeader} {next : PushInput}

theorem EosLast.remove (hsource : ¬source.hasEos) (front rest : List BufferHeader)
    (heos : EosLast (front ++ source :: rest)) : EosLast (front ++ rest) := by
  induction front with
  | nil =>
    rw [List.nil_append, EosLast, if_neg hsource] at heos
    exact heos
  | cons first front ih =>
    rw [List.cons_append, EosLast] at heos ⊢
    split at heos
    · simp at heos
    · rw [if_neg ‹_›]
      exact ih heos

def left (state : PushInput) (later : List BufferHeader) : List BufferHeader :=
  state.psourceFrame.toList ++ state.mInputPendingQ ++ later

def destBytes (state : PushInput) : List UInt8 :=
  state.pdestFrame.toList.flatMap BufferHeader.contents

/-- A property of destinations that does not depend on what they are filled with. -/
def Clears (fit : BufferHeader → Prop) : Prop :=
  ∀ header flags ts, fit header →
    fit { header with nFilledLen := 0, nFlags := flags, nTimeStamp := ts }

/-- The source buffers are well formed and end with the stream, and every destination is fit. -/
structure Sound (fit : BufferHeader → Prop) (state : PushInput) (later : List BufferHeader) :
    Prop where
  sources : ∀ source ∈ state.left later, source.Valid
  eos : EosLast (state.left later)
  waiting : state.psourceFrame = none → state.mInputPendingQ = []
  dest : ∀ dest, state.pdestFrame = some dest → fit dest
  free : ∀ dest ∈ state.mInputFreeQ, fit dest
  driver : ∀ dest ∈ state.driver, fit dest

structure Undisturbed (state next : PushInput) : Prop where
  parser : next.mFrameParser = state.mFrameParser
  nalLength : next.nalLength = state.nalLength
  scratch : next.h264Scratch = state.h264Scratch
  lookAhead : next.lookAheadNal = state.lookAheadNal
  handed : next.handed = state.handed
  destBytes : next.destBytes = state.destBytes

variable {fit : BufferHeader → Prop} {state : PushInput} {later : List BufferHeader}

/-- Two states have the same sources and the same waiting destinations. -/
structure SameQueues (state next : PushInput) : Prop where
  source : next.psourceFrame = state.psourceFrame
  pending : next.mInputPendingQ = state.mInputPendingQ
  free : next.mInputFreeQ = state.mInputFreeQ
  driver : next.driver = state.driver

theorem Sound.moved (hsound : state.Sound fit later) (hsame : SameQueues state next)
    (hdest : ∀ dest, next.pdestFrame = some dest → fit dest) : next.Sound fit later := by
  have hleft : next.left later = state.left later := by
    rw [left, left, hsame.source, hsame.pending]
  refine ⟨hleft ▸ hsound.sources, hleft ▸ hsound.eos, ?_, hdest, ?_, ?_⟩
  · rw [hsame.source, hsame.pending]
    exact hsound.waiting
  · rw [hsame.free]
    exact hsound.free
  · rw [hsame.driver]
    exact hsound.driver

theorem left_bytes (hsource : state.psourceFrame = some source) (later : List BufferHeader) :
    (state.left later).flatMap BufferHeader.contents =
      source.contents ++ (state.mInputPendingQ ++ later).flatMap BufferHeader.contents := by
  simp [left, hsource]

theorem Sound.consume (hsound : state.Sound fit later) (hsource : state.psourceFrame = some source) {count : Nat}
    (hcount : count ≤ source.nFilledLen) :
    Sound fit { state with psourceFrame := some (source.consume count) } later := by
  refine ⟨?_, ?_, by simp, hsound.dest, hsound.free, hsound.driver⟩
  · intro header hheader
    simp only [left, Option.toList_some, List.cons_append, List.mem_cons] at hheader
    rcases hheader with rfl | hheader
    · exact BufferHeader.consume_valid (hsound.sources source (by simp [left, hsource])) hcount
    · refine hsound.sources header ?_
      rw [left, hsource]
      exact List.mem_cons_of_mem _ hheader
  · have heos := hsound.eos
    have hflags : (source.consume count).hasEos = source.hasEos := rfl
    simpa only [left, hsource, Option.toList_some, List.singleton_append, List.cons_append,
      EosLast, hflags] using heos

@[simp] theorem contents_clear (header : BufferHeader) (flags : BitVec 32) (ts : Int) :
    ({ header with nFilledLen := 0, nFlags := flags, nTimeStamp := ts } :
      BufferHeader).contents = [] := by
  simp [BufferHeader.contents, BufferHeader.read]

theorem popFreeQ_sound (prepare : BufferHeader → BufferHeader)
    (hprepare : ∀ dest, fit dest → fit (prepare dest) ∧ (prepare dest).contents = [])
    (hsound : state.Sound fit later) :
    (state.popFreeQ prepare).Sound fit later ∧ (state.popFreeQ prepare).destBytes = [] := by
  unfold popFreeQ
  cases hfree : state.mInputFreeQ with
  | nil =>
    exact ⟨⟨hsound.sources, hsound.eos, hsound.waiting, by simp, by simp, hsound.driver⟩, rfl⟩
  | cons dest rest =>
    have hfits : ∀ header ∈ dest :: rest, fit header := hfree ▸ hsound.free
    obtain ⟨hdest, hempty⟩ := hprepare dest (hfits dest (List.mem_cons_self ..))
    refine ⟨⟨hsound.sources, hsound.eos, hsound.waiting, ?_, ?_, hsound.driver⟩, ?_⟩
    · rintro next ⟨rfl⟩
      exact hdest
    · exact fun header hheader => hfits header (List.mem_cons_of_mem _ hheader)
    · simp [destBytes, hempty]

theorem popFreeQ_fields (state : PushInput) (prepare : BufferHeader → BufferHeader) :
    (state.popFreeQ prepare).mFrameParser = state.mFrameParser ∧
      (state.popFreeQ prepare).nalLength = state.nalLength ∧
      (state.popFreeQ prepare).h264Scratch = state.h264Scratch ∧
      (state.popFreeQ prepare).lookAheadNal = state.lookAheadNal ∧
      (state.popFreeQ prepare).handed = state.handed ∧
      (state.popFreeQ prepare).psourceFrame = state.psourceFrame ∧
      (state.popFreeQ prepare).mInputPendingQ = state.mInputPendingQ := by
  unfold popFreeQ
  split <;> exact ⟨rfl, rfl, rfl, rfl, rfl, rfl, rfl⟩

theorem insertFreeQ_sound {dest : BufferHeader} (hdest : fit dest)
    (hsound : state.Sound fit later) :
    (state.insertFreeQ dest).Sound fit later ∧ Undisturbed state (state.insertFreeQ dest) := by
  unfold insertFreeQ
  split
  · refine ⟨⟨hsound.sources, hsound.eos, hsound.waiting, hsound.dest, ?_, hsound.driver⟩,
      ⟨rfl, rfl, rfl, rfl, rfl, rfl⟩⟩
    intro header hheader
    rcases List.mem_append.mp hheader with hheader | hheader
    · exact hsound.free header hheader
    · rw [List.mem_singleton.mp hheader]
      exact hdest
  · exact ⟨hsound, ⟨rfl, rfl, rfl, rfl, rfl, rfl⟩⟩

theorem popPendingQ_eq (hwaiting : state.psourceFrame = none → state.mInputPendingQ = [])
    (hnone : state.psourceFrame = none) : state.popPendingQ = state := by
  have hpending := hwaiting hnone
  cases state
  simp only at hnone hpending
  subst hnone hpending
  rfl

theorem pushInputBuffer_sound (hfit : Clears fit) (hsound : state.Sound fit later) :
    state.pushInputBuffer.Sound fit later ∧ Undisturbed state state.pushInputBuffer ∧
      state.pushInputBuffer.psourceFrame = state.psourceFrame ∧
      state.pushInputBuffer.mInputPendingQ = state.mInputPendingQ := by
  have hpopped : ∀ middle : PushInput, middle.Sound fit later →
      (if middle.psourceFrame.isNone then middle.popPendingQ else middle) = middle := by
    intro middle hmiddle
    split
    · exact popPendingQ_eq hmiddle.waiting (Option.isNone_iff_eq_none.mp ‹_›)
    · rfl
  unfold pushInputBuffer
  by_cases hdest : state.pdestFrame.isNone
  · rw [if_pos hdest]
    obtain ⟨hnext, hempty⟩ := popFreeQ_sound _
      (fun dest hdest => ⟨hfit dest dest.nFlags llongMax hdest, contents_clear ..⟩) hsound
    obtain ⟨hparser, hlength, hscratch, hlook, hhanded, hsource, hpending⟩ :=
      state.popFreeQ_fields fun dest => { dest with nFilledLen := 0, nTimeStamp := llongMax }
    rw [hpopped _ hnext]
    refine ⟨hnext, ⟨hparser, hlength, hscratch, hlook, hhanded, ?_⟩, hsource, hpending⟩
    rw [hempty, destBytes, Option.isNone_iff_eq_none.mp hdest]
    rfl
  · rw [if_neg hdest, hpopped state hsound]
    exact ⟨hsound, ⟨rfl, rfl, rfl, rfl, rfl, rfl⟩, rfl, rfl⟩

theorem emptyThisBufferProxyArbitrary_sound {buffer : BufferHeader} (hfit : Clears fit)
    (hsound : state.Sound fit (buffer :: later)) (hnext : state.emptyThisBufferProxyArbitrary buffer = some next) :
    next.Sound fit later ∧ Undisturbed state next ∧
      (next.left later).flatMap BufferHeader.contents =
        (state.left (buffer :: later)).flatMap BufferHeader.contents := by
  obtain ⟨hsources, heos, hwaiting, hdest, hfree, hdriver⟩ := hsound
  unfold emptyThisBufferProxyArbitrary at hnext
  split at hnext
  · rename_i hzero
    obtain rfl := Option.some.inj hnext
    have hcontents : buffer.contents = [] := by
      simp [BufferHeader.contents, BufferHeader.read, hzero.1]
    refine ⟨⟨?_, heos.remove hzero.2 _ _, hwaiting, hdest, hfree, hdriver⟩,
      ⟨rfl, rfl, rfl, rfl, rfl, rfl⟩, ?_⟩
    · intro source hsource
      refine hsources source ?_
      simp only [left, List.mem_append, List.mem_cons] at hsource ⊢
      tauto
    · simp [left, hcontents]
  · split at hnext
    · rename_i hnone
      have hsource := Option.isNone_iff_eq_none.mp hnone
      have hpending := hwaiting hsource
      have hleft : left { state with psourceFrame := some buffer } later =
          state.left (buffer :: later) := by
        simp [left, hsource, hpending]
      have hset : Sound fit { state with psourceFrame := some buffer } later :=
        ⟨hleft ▸ hsources, hleft ▸ heos, by simp, hdest, hfree, hdriver⟩
      obtain ⟨hpushed, hsame, hkept, hqueue⟩ := pushInputBuffer_sound hfit hset
      obtain rfl := Option.some.inj hnext
      refine ⟨hpushed, ⟨hsame.parser, hsame.nalLength, hsame.scratch, hsame.lookAhead, hsame.handed,
        hsame.destBytes⟩, ?_⟩
      rw [← hleft]
      simp only [left, hkept, hqueue]
    · split at hnext
      · obtain rfl := Option.some.inj hnext
        have hleft : left { state with mInputPendingQ := state.mInputPendingQ ++ [buffer] } later =
            state.left (buffer :: later) := by
          simp [left]
        refine ⟨⟨hleft ▸ hsources, hleft ▸ heos, ?_, hdest, hfree, hdriver⟩,
          ⟨rfl, rfl, rfl, rfl, rfl, rfl⟩, by rw [hleft]⟩
        intro hnone
        simp_all
      · simp at hnext

theorem emptyBufferDone_sound {buffer : BufferHeader} (hfit : Clears fit) (hbuffer : fit buffer)
    (hsound : state.Sound fit later) :
    (state.emptyBufferDone buffer).Sound fit later ∧
      Undisturbed state (state.emptyBufferDone buffer) ∧
      (state.emptyBufferDone buffer).left later = state.left later := by
  unfold emptyBufferDone
  split
  · rename_i hnone
    have hset : Sound fit { state with
        pdestFrame := some { buffer with nFilledLen := 0, nTimeStamp := llongMax } } later := by
      refine ⟨hsound.sources, hsound.eos, hsound.waiting, ?_, hsound.free, hsound.driver⟩
      rintro dest ⟨rfl⟩
      exact hfit buffer buffer.nFlags llongMax hbuffer
    obtain ⟨hpushed, hsame, hkept, hqueue⟩ := pushInputBuffer_sound hfit hset
    refine ⟨hpushed, ⟨hsame.parser, hsame.nalLength, hsame.scratch, hsame.lookAhead, hsame.handed, ?_⟩, ?_⟩
    · rw [hsame.destBytes]
      simp [destBytes, Option.isNone_iff_eq_none.mp hnone]
    · simp only [left, hkept, hqueue]
  · obtain ⟨hnext, hsame⟩ := insertFreeQ_sound
      (hfit buffer buffer.nFlags buffer.nTimeStamp hbuffer) hsound
    refine ⟨hnext, hsame, ?_⟩
    unfold insertFreeQ
    split <;> rfl

theorem step_event {action : Action} {actions : List Action} (hfit : Clears fit)
    (hsound : state.Sound fit (sources (action :: actions))) (hevent : action ≠ .parse ∧ action ≠ .drain)
    (hnext : state.step action = some next) :
    next.Sound fit (sources actions) ∧ Undisturbed state next ∧
      (next.left (sources actions)).flatMap BufferHeader.contents =
        (state.left (sources (action :: actions))).flatMap BufferHeader.contents := by
  cases action with
  | emptyThisBuffer buffer =>
    rw [step] at hnext
    split at hnext
    · simp at hnext
    · exact emptyThisBufferProxyArbitrary_sound hfit hsound hnext
  | emptyBufferDone index =>
    rw [step] at hnext
    split at hnext
    · simp at hnext
    cases hdriver : state.driver[index]? with
    | none => simp [hdriver] at hnext
    | some buffer =>
      simp only [hdriver, Option.some.injEq] at hnext
      subst hnext
      obtain ⟨hsources, heos, hwaiting, hdest, hfree, hreturned⟩ := hsound
      have hrest : Sound fit { state with driver := state.driver.eraseIdx index }
          (sources actions) :=
        ⟨hsources, heos, hwaiting, hdest, hfree,
          fun dest hmem => hreturned dest (List.mem_of_mem_eraseIdx hmem)⟩
      obtain ⟨hnext, hsame, hleft⟩ := emptyBufferDone_sound hfit
        (hreturned buffer (List.mem_of_getElem? hdriver)) hrest
      refine ⟨hnext, ⟨hsame.parser, hsame.nalLength, hsame.scratch, hsame.lookAhead, hsame.handed,
        hsame.destBytes⟩, ?_⟩
      rw [hleft]
      rfl
  | parse => exact absurd rfl hevent.1
  | drain => exact absurd rfl hevent.2

theorem step_parse (hnext : state.step .parse = some next) :
    ∃ source dest middle, state.psourceFrame = some source ∧ state.pdestFrame = some dest ∧
      state.parseRound source dest = some middle ∧ next = { middle with parsed := true } := by
  rw [step] at hnext
  split at hnext
  · rename_i source dest hparsed hsource hdest
    obtain ⟨middle, hmiddle, rfl⟩ := Option.map_eq_some_iff.mp hnext
    exact ⟨source, dest, middle, hsource, hdest, hmiddle, rfl⟩
  · simp at hnext

theorem step_drain (hnext : state.step .drain = some next) :
    ∃ source, state.psourceFrame = some source ∧
      { state with parsed := false }.drainRound source = some next := by
  rw [step] at hnext
  split at hnext
  · rename_i source hparsed hsource
    exact ⟨source, hsource, hnext⟩
  · simp at hnext

/-! ### The end of a source buffer -/

theorem emptyThisBufferProxy_sound {buffer : BufferHeader}
    (hbuffer : fit { buffer with nFlags := buffer.nFlags &&& ~~~bufferFlagEoseq })
    (hsound : state.Sound fit later) : (state.emptyThisBufferProxy buffer).Sound fit later := by
  have hdriver : ∀ dest ∈ state.driver ++
      [{ buffer with nFlags := buffer.nFlags &&& ~~~bufferFlagEoseq }], fit dest := by
    intro dest hdest
    rcases List.mem_append.mp hdest with hdest | hdest
    · exact hsound.driver dest hdest
    · rw [List.mem_singleton.mp hdest]
      exact hbuffer
  unfold emptyThisBufferProxy
  dsimp only
  split
  · exact ⟨hsound.sources, hsound.eos, hsound.waiting, hsound.dest, hsound.free, hdriver⟩
  · exact ⟨hsound.sources, hsound.eos, hsound.waiting, hsound.dest, hsound.free, hdriver⟩

theorem hasEos_clear (header : BufferHeader) :
    ({ header with nFlags := header.nFlags &&& ~~~bufferFlagEos } : BufferHeader).hasEos = false := by
  simp [BufferHeader.hasEos, BitVec.and_assoc]

theorem emptyThisBufferProxy_eq (state : PushInput) (buffer : BufferHeader)
    (hfilled : buffer.nFilledLen ≠ 0) (heos : buffer.hasEos = false) :
    state.emptyThisBufferProxy buffer =
      { state with
        handed := state.handed ++ [buffer]
        driver := state.driver ++ [{ buffer with nFlags := buffer.nFlags &&& ~~~bufferFlagEoseq }] } := by
  simp [emptyThisBufferProxy, hfilled, heos]

@[simp] theorem emptyThisBufferProxy_handed (state : PushInput) (buffer : BufferHeader) :
    (state.emptyThisBufferProxy buffer).handed = state.handed ++ [buffer] := by
  unfold emptyThisBufferProxy
  dsimp only
  split <;> rfl

theorem emptyThisBufferProxy_sources (state : PushInput) (buffer : BufferHeader) :
    (state.emptyThisBufferProxy buffer).psourceFrame = state.psourceFrame ∧
      (state.emptyThisBufferProxy buffer).mInputPendingQ = state.mInputPendingQ := by
  unfold emptyThisBufferProxy
  dsimp only
  split <;> exact ⟨rfl, rfl⟩

theorem left_returnSource (hsource : state.psourceFrame = some source) (later : List BufferHeader) :
    state.left later = source :: (state.returnSource source).left later := by
  cases hpending : state.mInputPendingQ <;> simp [left, returnSource, popPendingQ, hsource, hpending]

theorem returnSource_sound (hsource : state.psourceFrame = some source) (heos : source.hasEos = false)
    (hsound : state.Sound fit later) : (state.returnSource source).Sound fit later := by
  have hleft := left_returnSource hsource later
  have hrest := hsound.eos
  rw [hleft, EosLast, heos, if_neg Bool.false_ne_true] at hrest
  refine ⟨fun next hnext => hsound.sources next ?_, hrest, ?_, hsound.dest, hsound.free,
    hsound.driver⟩
  · rw [hleft]
    exact List.mem_cons_of_mem _ hnext
  · intro hnone
    simp only [returnSource, popPendingQ, List.head?_eq_none_iff] at hnone
    simp [returnSource, popPendingQ, hnone]

theorem Sound.last (hsound : state.Sound fit later) (hsource : state.psourceFrame = some source)
    (heos : source.hasEos = true) : state.mInputPendingQ = [] ∧ later = [] := by
  have hrest := hsound.eos
  rw [left, hsource, Option.toList_some, List.append_assoc, List.singleton_append, EosLast, heos,
    if_pos rfl] at hrest
  exact List.append_eq_nil_iff.mp hrest

theorem returnSource_returned (source : BufferHeader) (hpending : state.mInputPendingQ = []) :
    (state.returnSource source).AllReturned := by
  simp [AllReturned, returnSource, popPendingQ, hpending]

theorem step_returned {action : Action} {actions : List Action} (hreturned : state.AllReturned)
    (hlater : sources (action :: actions) = []) (hnext : state.step action = some next) :
    next.AllReturned ∧ sources actions = [] ∧ next.handed = state.handed := by
  obtain ⟨hsource, hpending⟩ := hreturned
  cases action with
  | emptyThisBuffer buffer => simp [sources, Action.source?] at hlater
  | emptyBufferDone index =>
    rw [step] at hnext
    split at hnext
    · simp at hnext
    cases hdriver : state.driver[index]? with
    | none => simp [hdriver] at hnext
    | some buffer =>
      simp only [hdriver, Option.some.injEq] at hnext
      subst hnext
      refine ⟨?_, hlater, ?_⟩
      · unfold emptyBufferDone
        split
        · simp [AllReturned, pushInputBuffer, popPendingQ, hsource, hpending]
        · unfold insertFreeQ
          split <;> exact ⟨hsource, hpending⟩
      · unfold emptyBufferDone
        split
        · simp [pushInputBuffer, popPendingQ, hsource]
        · unfold insertFreeQ
          split <;> rfl
  | parse => simp [step, hsource] at hnext
  | drain => simp [step, hsource] at hnext

end PushInput

end Nozomi
