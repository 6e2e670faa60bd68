import Nozomi.Vdec.FrameParser.Code

/-!
# Feeding source buffers

A caller of either parser hands over its source buffers one by one, calls until each is drained, and
takes the destination as a frame whenever `*partialframe` is 0. `run_invariant` is the rule for such a
run: what every call preserves of the state and the bytes still to come holds at the end.
-/

namespace Nozomi

/-- What a caller holds: the parser, the destination in use, the frames it has taken, and the
destination as each call has left it. -/
structure Feed where
  parser : FrameParse
  dest : BufferHeader
  frames : List (List UInt8)
  written : List BufferHeader

namespace Feed

abbrev Parse := FrameParse → BufferHeader → BufferHeader → Nat → ParseResult

def call (parse : Parse) (fresh : Nat → BufferHeader) (feed : Feed) (source : BufferHeader) :
    Option (Feed × BufferHeader) :=
  let result := parse feed.parser source feed.dest 1
  if result.status = 1 then
    let written := feed.written ++ [result.dest]
    if result.partialframe = 0 then
      some (⟨result.parser, fresh (feed.frames.length + 1), feed.frames ++ [result.dest.contents],
        written⟩, result.source)
    else some (⟨result.parser, result.dest, feed.frames, written⟩, result.source)
  else none

def drain (parse : Parse) (fresh : Nat → BufferHeader) : Nat → Feed → BufferHeader → Option Feed
  | 0, feed, _ => some feed
  | fuel + 1, feed, source =>
    if source.nFilledLen = 0 then some feed
    else
      match feed.call parse fresh source with
      | some (feed, source) => drain parse fresh fuel feed source
      | none => none

def feedAll (parse : Parse) (fresh : Nat → BufferHeader) : Feed → List BufferHeader → Option Feed
  | feed, [] => some feed
  | feed, source :: sources =>
    match feed.drain parse fresh source.nFilledLen source with
    | some feed => feedAll parse fresh feed sources
    | none => none

def run (parse : Parse) (fresh : Nat → BufferHeader) (parser : FrameParse)
    (sources : List BufferHeader) : Option Feed :=
  feedAll parse fresh ⟨parser, fresh 0, [], []⟩ sources

/-! ### The rule for a run -/

/-- A call that succeeds takes bytes from the front of the source, and keeps the invariant of the feed
and the bytes still to come. -/
def Preserves (parse : Parse) (fresh : Nat → BufferHeader) (invariant : Feed → List UInt8 → Prop) :
    Prop :=
  ∀ (feed : Feed) (source : BufferHeader) (rest : List UInt8), source.Valid →
    0 < source.nFilledLen → invariant feed (source.contents ++ rest) →
    ∀ next left, feed.call parse fresh source = some (next, left) →
      ∃ count, 0 < count ∧ count ≤ source.nFilledLen ∧ left = source.consume count ∧
        invariant next (left.contents ++ rest)

def Succeeds (parse : Parse) (fresh : Nat → BufferHeader) (invariant : Feed → List UInt8 → Prop) :
    Prop :=
  ∀ (feed : Feed) (source : BufferHeader) (rest : List UInt8), source.Valid →
    0 < source.nFilledLen → invariant feed (source.contents ++ rest) →
    feed.call parse fresh source ≠ none

variable {parse : Parse} {fresh : Nat → BufferHeader} {invariant : Feed → List UInt8 → Prop}

private theorem contents_nil {source : BufferHeader} (hsource : source.Valid)
    (hempty : source.nFilledLen = 0) : source.contents = [] := by
  rw [← List.length_eq_zero_iff, BufferHeader.contents_length hsource, hempty]

theorem drain_invariant (hpreserves : Preserves parse fresh invariant) (rest : List UInt8)
    (fuel : Nat) :
    ∀ (feed : Feed) (source : BufferHeader) (last : Feed), source.Valid →
      source.nFilledLen ≤ fuel → invariant feed (source.contents ++ rest) →
      feed.drain parse fresh fuel source = some last → invariant last rest := by
  induction fuel with
  | zero =>
    intro feed source last hsource hfuel hfeed hlast
    obtain rfl := Option.some.inj hlast
    rwa [contents_nil hsource (by omega)] at hfeed
  | succ fuel ih =>
    intro feed source last hsource hfuel hfeed hlast
    rw [drain] at hlast
    by_cases hempty : source.nFilledLen = 0
    · rw [if_pos hempty] at hlast
      obtain rfl := Option.some.inj hlast
      rwa [contents_nil hsource hempty] at hfeed
    rw [if_neg hempty] at hlast
    cases hcall : feed.call parse fresh source with
    | none => simp [hcall] at hlast
    | some result =>
      obtain ⟨next, left⟩ := result
      obtain ⟨count, hpos, hcount, rfl, hnext⟩ :=
        hpreserves feed source rest hsource (by omega) hfeed next left hcall
      simp only [hcall] at hlast
      exact ih next (source.consume count) last (BufferHeader.consume_valid hsource hcount)
        (by rw [BufferHeader.consume_nFilledLen]; omega) hnext hlast

theorem feedAll_invariant (hpreserves : Preserves parse fresh invariant)
    (sources : List BufferHeader) :
    ∀ feed last : Feed, (∀ source ∈ sources, source.Valid) →
      invariant feed (sources.flatMap BufferHeader.contents) →
      feedAll parse fresh feed sources = some last → invariant last [] := by
  induction sources with
  | nil =>
    intro feed last hsources hfeed hlast
    obtain rfl := Option.some.inj hlast
    exact hfeed
  | cons source sources ih =>
    intro feed last hsources hfeed hlast
    rw [feedAll] at hlast
    cases hdrain : feed.drain parse fresh source.nFilledLen source with
    | none => simp [hdrain] at hlast
    | some next =>
      simp only [hdrain] at hlast
      rw [List.flatMap_cons] at hfeed
      have hnext := drain_invariant hpreserves (sources.flatMap BufferHeader.contents) _ feed source
        next (hsources source (List.mem_cons_self ..)) (Nat.le_refl _) hfeed hdrain
      exact ih next last (fun later hlater => hsources later (List.mem_cons_of_mem _ hlater))
        hnext hlast

theorem run_invariant (hpreserves : Preserves parse fresh invariant) {parser : FrameParse}
    {sources : List BufferHeader} (hsources : ∀ source ∈ sources, source.Valid)
    (hinit : invariant ⟨parser, fresh 0, [], []⟩ (sources.flatMap BufferHeader.contents))
    {last : Feed} (hlast : run parse fresh parser sources = some last) : invariant last [] :=
  feedAll_invariant hpreserves sources _ last hsources hinit hlast

theorem drain_ne_none (hpreserves : Preserves parse fresh invariant)
    (hsucceeds : Succeeds parse fresh invariant) (rest : List UInt8) (fuel : Nat) :
    ∀ (feed : Feed) (source : BufferHeader), source.Valid →
      invariant feed (source.contents ++ rest) → feed.drain parse fresh fuel source ≠ none := by
  induction fuel with
  | zero => exact fun feed source _ _ => Option.some_ne_none feed
  | succ fuel ih =>
    intro feed source hsource hfeed
    rw [drain]
    by_cases hempty : source.nFilledLen = 0
    · rw [if_pos hempty]
      exact Option.some_ne_none feed
    rw [if_neg hempty]
    cases hcall : feed.call parse fresh source with
    | none => exact absurd hcall (hsucceeds feed source rest hsource (by omega) hfeed)
    | some result =>
      obtain ⟨next, left⟩ := result
      obtain ⟨count, hpos, hcount, rfl, hnext⟩ :=
        hpreserves feed source rest hsource (by omega) hfeed next left hcall
      exact ih next _ (BufferHeader.consume_valid hsource hcount) hnext

theorem feedAll_ne_none (hpreserves : Preserves parse fresh invariant)
    (hsucceeds : Succeeds parse fresh invariant) (sources : List BufferHeader) :
    ∀ feed : Feed, (∀ source ∈ sources, source.Valid) →
      invariant feed (sources.flatMap BufferHeader.contents) →
      feedAll parse fresh feed sources ≠ none := by
  induction sources with
  | nil => exact fun feed _ _ => Option.some_ne_none feed
  | cons source sources ih =>
    intro feed hsources hfeed
    have hsource : source.Valid := hsources source (List.mem_cons_self ..)
    rw [List.flatMap_cons] at hfeed
    rw [feedAll]
    cases hdrain : feed.drain parse fresh source.nFilledLen source with
    | none => exact absurd hdrain (drain_ne_none hpreserves hsucceeds _ _ feed source hsource hfeed)
    | some next =>
      have hnext := drain_invariant hpreserves (sources.flatMap BufferHeader.contents) _ feed source
        next hsource (Nat.le_refl _) hfeed hdrain
      exact ih next (fun later hlater => hsources later (List.mem_cons_of_mem _ hlater)) hnext

theorem run_ne_none (hpreserves : Preserves parse fresh invariant)
    (hsucceeds : Succeeds parse fresh invariant) {parser : FrameParse}
    {sources : List BufferHeader} (hsources : ∀ source ∈ sources, source.Valid)
    (hinit : invariant ⟨parser, fresh 0, [], []⟩ (sources.flatMap BufferHeader.contents)) :
    run parse fresh parser sources ≠ none :=
  feedAll_ne_none hpreserves hsucceeds sources _ hsources hinit

end Feed

end Nozomi
