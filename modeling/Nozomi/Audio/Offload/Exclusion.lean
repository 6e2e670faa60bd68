import Nozomi.Audio.Offload.Threads

/-!
# The callback thread is alone with the handle

The callback thread uses `out->compr` without the lock while `offload_thread_blocked` is set. The clients write the
field under the lock, where they have seen the flag cleared or there is no handle; and whoever waits for the flag in
`out_standby` holds `adev->lock`, which a restart of the stream needs.
-/

namespace Nozomi.Offload

variable {ι : Type}

/-! ### Assertions -/

def ClientPc.holdsLock : ClientPc → Bool
  | .idle | .lockPre _ | .lock _ | .stopCompressedOutput _ .waitCond | .join | .free => false
  | _ => true

def ClientPc.holdsAdev : ClientPc → Bool
  | .outWrite _ .openCompr | .outWrite _ .closeUnready | .outWrite _ .clearUnready | .outWrite _ (.unlockAdev _) => true
  | .outStandby _ .setStandby | .outStandby _ .closeCompr | .outStandby _ .clearCompr => true
  | .outStandby _ .unlockAdev | .stopCompressedOutput (.standby _) _ => true
  | _ => false

def CallbackPc.holdsLock : CallbackPc → Bool
  | .unlockPre _ | .loop | .testCompr _ | .block _ | .unlock _ | .unblock _ | .callback | .freeCmds
  | .unlockExit => true
  | _ => false

def CallbackPc.isBlocked : CallbackPc → Bool
  | .unlock _ | .call _ | .partialDrain | .resendMetadata | .unblock _ => true
  | .lockPre (some _) | .lock (some _) | .unlockPre (some _) => true
  | _ => false

/-- There is no handle, or a client is about to close it, or has just opened it. -/
def OffloadStream.StandsBy (stream : OffloadStream ι) : Prop :=
  stream.compr = none ∨ ∃ client, stream.adevLock = some (.client client)

def ClientPc.Knows (stream : OffloadStream ι) : ClientPc → Prop
  | .outWrite _ .lockAdev => stream.standby = false ∧ stream.StandsBy
  | .outWrite _ .openCompr => stream.standby = false ∧ stream.compr = none
  | .outWrite _ .closeUnready | .outWrite _ .clearUnready =>
    stream.standby = false ∧ stream.offloadThreadBlocked = false
  | .outWrite _ (.unlockAdev failed) => stream.standby = false ∧ (failed = true → stream.compr = none)
  | .outWrite _ .restoreStandby => stream.compr = none
  | .outStandby _ .closeCompr | .outStandby _ .clearCompr => stream.offloadThreadBlocked = false
  | .outStandby _ .unlockAdev => stream.compr = none
  | _ => True

structure Whole (stream : OffloadStream ι) : Prop where
  standby : stream.standby = true → stream.StandsBy
  unreturned : stream.returned = false → stream.compr = none
  blocked : stream.offloadThreadBlocked = true → stream.compr ≠ none

theorem whole_clear {stream : OffloadStream ι}
    (hunblocked : stream.offloadThreadBlocked = false) : Whole { stream with compr := none } := by
  refine ⟨fun _ => .inl rfl, fun _ => rfl, ?_⟩
  intro hblocked
  rw [hunblocked] at hblocked
  cases hblocked

structure ClientPc.Annotated (client : ι) (pc : ClientPc) (stream : OffloadStream ι) : Prop where
  lock : stream.lock = some (.client client) ↔ pc.holdsLock = true
  adevLock : stream.adevLock = some (.client client) ↔ pc.holdsAdev = true
  returned : pc = .idle ∨ stream.returned = true
  knows : pc.Knows stream

/-- The assertion of the callback thread. -/
structure CallbackPc.Annotated (pc : CallbackPc) (stream : OffloadStream ι) : Prop where
  lock : stream.lock = some .callback ↔ pc.holdsLock = true
  blocked : stream.offloadThreadBlocked = pc.isBlocked
  compr : ∀ cmd, pc = .block cmd → stream.compr ≠ none

/-- The assertion of the rest of the device. -/
structure ElsewhereAnnotated (holds : Bool) (stream : OffloadStream ι) : Prop where
  lock : stream.lock ≠ some .elsewhere
  adevLock : stream.adevLock = some .elsewhere ↔ holds = true

def assertion : ∀ thread : Thread ι, Control thread → OffloadStream ι → Prop
  | .opener, pc, stream => stream.returned = true ↔ pc = .ended
  | .callback, pc, stream => pc.Annotated stream
  | .client client, pc, stream => pc.Annotated client stream
  | .elsewhere, holds, stream => ElsewhereAnnotated holds stream

/-! ### What the threads leave to each other -/

/-- What a step of a thread leaves to the others: their mutexes, and what is used under them. -/
structure Guarantee (thread : Thread ι) (before after : OffloadStream ι) : Prop where
  lock : ∀ other, other ≠ thread → (after.lock = some other ↔ before.lock = some other)
  adevLock : ∀ other, other ≠ thread → (after.adevLock = some other ↔ before.adevLock = some other)
  returned : before.returned = true → after.returned = true
  opener : thread ≠ .opener → after.returned = before.returned
  blocked : thread ≠ .callback → after.offloadThreadBlocked = before.offloadThreadBlocked
  compr : ∀ other, other ≠ thread → before.lock = some other → after.compr = before.compr
  locked : ∀ client, .client client ≠ thread → before.lock = some (.client client) →
    after.standby = before.standby ∧ after.offloadThreadBlocked = before.offloadThreadBlocked ∧
      (before.StandsBy → after.StandsBy)

variable {thread : Thread ι} {before after : OffloadStream ι}

theorem ClientPc.knows_of_unlocked {pc : ClientPc} (stream : OffloadStream ι) (hfree : pc.holdsLock = false) :
    pc.Knows stream := by
  cases pc with
  | outWrite bytes pc | outStandby closes pc => cases hfree
  | _ => trivial

theorem ClientPc.Knows.congr {pc : ClientPc} (hknows : pc.Knows before) (hcompr : after.compr = before.compr)
    (hstandby : after.standby = before.standby) (hblocked : after.offloadThreadBlocked = before.offloadThreadBlocked)
    (hstands : before.StandsBy → after.StandsBy) : pc.Knows after := by
  cases pc with
  | outWrite bytes pc =>
    cases pc with
    | lockAdev => exact ⟨hstandby.trans hknows.1, hstands hknows.2⟩
    | openCompr => exact ⟨hstandby.trans hknows.1, hcompr.trans hknows.2⟩
    | closeUnready | clearUnready => exact ⟨hstandby.trans hknows.1, hblocked.trans hknows.2⟩
    | unlockAdev failed => exact ⟨hstandby.trans hknows.1, fun hfailed => hcompr.trans (hknows.2 hfailed)⟩
    | restoreStandby => exact hcompr.trans hknows
    | _ => trivial
  | outStandby closes pc =>
    cases pc with
    | closeCompr | clearCompr => exact hblocked.trans hknows
    | unlockAdev => exact hcompr.trans hknows
    | _ => trivial
  | _ => trivial

theorem Guarantee.client (hguarantee : Guarantee thread before after) {client : ι} {pc : ClientPc}
    (hother : .client client ≠ thread) (hannotated : pc.Annotated client before) : pc.Annotated client after := by
  refine ⟨(hguarantee.lock _ hother).trans hannotated.lock, (hguarantee.adevLock _ hother).trans hannotated.adevLock,
    hannotated.returned.imp_right hguarantee.returned, ?_⟩
  cases hholds : pc.holdsLock with
  | false => exact ClientPc.knows_of_unlocked after hholds
  | true =>
    have hlock := hannotated.lock.mpr hholds
    obtain ⟨hstandby, hblocked, hstands⟩ := hguarantee.locked client hother hlock
    exact hannotated.knows.congr (hguarantee.compr _ hother hlock) hstandby hblocked hstands

theorem Guarantee.callback (hguarantee : Guarantee thread before after) {pc : CallbackPc}
    (hother : .callback ≠ thread) (hannotated : pc.Annotated before) : pc.Annotated after := by
  refine ⟨(hguarantee.lock _ hother).trans hannotated.lock,
    (hguarantee.blocked hother.symm).trans hannotated.blocked, ?_⟩
  rintro cmd rfl
  rw [hguarantee.compr _ hother (hannotated.lock.mpr rfl)]
  exact hannotated.compr cmd rfl

theorem Guarantee.stable (hguarantee : Guarantee thread before after) {other : Thread ι} (hother : other ≠ thread)
    {pc : Control other} (hannotated : assertion other pc before) : assertion other pc after := by
  cases other with
  | opener =>
    have hreturned := hguarantee.opener hother.symm
    rw [assertion, hreturned]
    exact hannotated
  | callback => exact hguarantee.callback hother hannotated
  | client client => exact hguarantee.client hother hannotated
  | elsewhere =>
    refine ⟨fun hlock => hannotated.lock ((hguarantee.lock _ hother).mp hlock), ?_⟩
    exact (hguarantee.adevLock _ hother).trans hannotated.adevLock

/-! ### Clients -/

section Client

variable {client : ι} {pc next : ClientPc}

structure ClientPc.Establishes (client : ι) (pc : ClientPc) (before after : OffloadStream ι) : Prop where
  whole : Whole after
  annotated : pc.Annotated client after
  guarantee : Guarantee (.client client) before after

theorem ClientPc.Annotated.establishes (hannotated : pc.Annotated client before)
    (hlock : MutexStep (.client client) pc.holdsLock next.holdsLock before.lock after.lock)
    (hadev : MutexStep (.client client) pc.holdsAdev next.holdsAdev before.adevLock after.adevLock)
    (hreturned : before.returned = true) (hsame : after.returned = before.returned)
    (hblocked : after.offloadThreadBlocked = before.offloadThreadBlocked)
    (hfields : pc.holdsLock = true ∨
      after.compr = before.compr ∧ after.standby = before.standby ∧ after.adevLock = before.adevLock)
    (hwhole : Whole after) (hknows : next.Knows after) : next.Establishes client before after := by
  refine ⟨hwhole, ⟨hlock.own hannotated.lock, hadev.own hannotated.adevLock, .inr (hsame.trans hreturned), hknows⟩, ?_⟩
  -- Another thread that holds the stream excludes that this one does.
  have hexcluded : ∀ other, other ≠ .client client → before.lock = some other →
      after.compr = before.compr ∧ after.standby = before.standby ∧ after.adevLock = before.adevLock := by
    intro other hother howner
    apply hfields.resolve_left
    intro hholds
    rw [hannotated.lock.mpr hholds] at howner
    exact hother (Option.some.inj howner).symm
  refine ⟨fun other hother => hlock.others hannotated.lock hother,
    fun other hother => hadev.others hannotated.adevLock hother,
    fun _ => hsame.trans hreturned, fun _ => hsame, fun _ => hblocked,
    fun other hother howner => (hexcluded other hother howner).1, ?_⟩
  intro other hother howner
  obtain ⟨hcompr, hstandby, hadevLock⟩ := hexcluded _ hother howner
  refine ⟨hstandby, hblocked, ?_⟩
  rw [OffloadStream.StandsBy, OffloadStream.StandsBy, hcompr, hadevLock]
  exact id

theorem ClientPc.Annotated.establishes_quiet (hwhole : Whole before) (hannotated : pc.Annotated client before)
    (hsame : after.lock = before.lock ∧ after.adevLock = before.adevLock ∧ after.compr = before.compr ∧
      after.standby = before.standby ∧ after.offloadThreadBlocked = before.offloadThreadBlocked ∧
      after.returned = before.returned)
    (hreturned : before.returned = true) (hholds : next.holdsLock = pc.holdsLock)
    (hadev : next.holdsAdev = pc.holdsAdev)
    (hknows : next.Knows after) : next.Establishes client before after := by
  obtain ⟨hlock, hadevLock, hcompr, hstandby, hblocked, hreturnedSame⟩ := hsame
  apply hannotated.establishes _ _ hreturned hreturnedSame hblocked (.inr ⟨hcompr, hstandby, hadevLock⟩) _ hknows
  · rw [hlock, hholds]
    exact .same
  · rw [hadevLock, hadev]
    exact .same
  · constructor
    · rw [hstandby, OffloadStream.StandsBy, hcompr, hadevLock]
      exact hwhole.standby
    · rw [hreturnedSame, hcompr]
      exact hwhole.unreturned
    · rw [hblocked, hcompr]
      exact hwhole.blocked

section Stop

variable (caller : StopCaller)

theorem StopCaller.next_holdsLock : caller.next.holdsLock = true := by
  cases caller <;> rfl

theorem StopCaller.next_holdsAdev (pc : StopPc) :
    caller.next.holdsAdev = (ClientPc.stopCompressedOutput caller pc).holdsAdev := by
  cases caller <;> rfl

theorem StopCaller.holdsAdev_eq (pc pc' : StopPc) :
    (ClientPc.stopCompressedOutput caller pc).holdsAdev = (ClientPc.stopCompressedOutput caller pc').holdsAdev := by
  cases caller <;> rfl

theorem StopCaller.next_knows {stream : OffloadStream ι} (hblocked : stream.offloadThreadBlocked = false) :
    caller.next.Knows stream := by
  cases caller with
  | standby closes => exact hblocked
  | flush | destroy => trivial

end Stop

theorem Whole.unblocked {stream : OffloadStream ι} (hwhole : Whole stream) (hcompr : stream.compr = none) :
    stream.offloadThreadBlocked = false :=
  Bool.eq_false_iff.mpr fun hblocked => hwhole.blocked hblocked hcompr

theorem outWrite_establishes {input : Input} {bytes : Int} {pc : WritePc} (hwhole : Whole before)
    (hannotated : (ClientPc.outWrite bytes pc).Annotated client before)
    (hcode : outWrite client before input bytes pc = some (next, after)) : next.Establishes client before after := by
  have hreturned : before.returned = true := hannotated.returned.resolve_left nofun
  have hknows := hannotated.knows
  cases pc with
  | testStandby =>
    simp only [outWrite] at hcode
    split at hcode
    · next hstandby =>
      obtain ⟨rfl, rfl⟩ := Prod.mk.inj (Option.some.inj hcode)
      refine hannotated.establishes .same .same hreturned rfl rfl (.inl rfl) ?_ ⟨rfl, hwhole.standby hstandby⟩
      exact ⟨nofun, hwhole.unreturned, hwhole.blocked⟩
    · obtain ⟨rfl, rfl⟩ := Prod.mk.inj (Option.some.inj hcode)
      exact hannotated.establishes_quiet hwhole ⟨rfl, rfl, rfl, rfl, rfl, rfl⟩ hreturned rfl rfl trivial
  | lockAdev =>
    simp only [outWrite, Option.map_eq_some_iff, OffloadStream.lockAdev_eq_some, Prod.mk.injEq] at hcode
    obtain ⟨_, ⟨hfree, rfl⟩, rfl, rfl⟩ := hcode
    -- No client holds `adev->lock`, so none is in `out_standby` with a handle.
    have hcompr : before.compr = none := by
      apply hknows.2.resolve_right
      rintro ⟨holder, hholder⟩
      rw [hfree] at hholder
      cases hholder
    refine hannotated.establishes .same ?_ hreturned rfl rfl (.inl rfl) ?_ ⟨hknows.1, hcompr⟩
    · rw [hfree]
      exact .takes
    · exact ⟨fun _ => .inl hcompr, hwhole.unreturned, hwhole.blocked⟩
  | openCompr =>
    obtain ⟨hstandby, hcompr⟩ := hknows
    cases input with
    | noDevice =>
      obtain ⟨rfl, rfl⟩ := Prod.mk.inj (Option.some.inj hcode)
      exact hannotated.establishes_quiet hwhole ⟨rfl, rfl, rfl, rfl, rfl, rfl⟩ hreturned rfl rfl
        ⟨hstandby, fun _ => hcompr⟩
    | noHandle =>
      obtain ⟨rfl, rfl⟩ := Prod.mk.inj (Option.some.inj hcode)
      exact hannotated.establishes_quiet hwhole ⟨rfl, rfl, hcompr.symm, rfl, rfl, rfl⟩ hreturned rfl rfl
        ⟨hstandby, nofun⟩
    | handle ready =>
      obtain ⟨rfl, rfl⟩ := Prod.mk.inj (Option.some.inj hcode)
      have hopened : Whole { before with compr := some before.opened, opened := before.opened + 1 } := by
        refine ⟨?_, ?_, fun _ => nofun⟩
        · intro hset
          rw [hstandby] at hset
          cases hset
        · intro hunreturned
          rw [hreturned] at hunreturned
          cases hunreturned
      cases ready with
      | true => exact hannotated.establishes .same .same hreturned rfl rfl (.inl rfl) hopened ⟨hstandby, nofun⟩
      | false =>
        exact hannotated.establishes .same .same hreturned rfl rfl (.inl rfl) hopened
          ⟨hstandby, hwhole.unblocked hcompr⟩
    | _ => cases hcode
  | closeUnready =>
    obtain ⟨rfl, rfl⟩ := Prod.mk.inj (Option.some.inj hcode)
    exact hannotated.establishes_quiet hwhole ⟨rfl, rfl, rfl, rfl, rfl, rfl⟩ hreturned rfl rfl hknows
  | clearUnready =>
    obtain ⟨rfl, rfl⟩ := Prod.mk.inj (Option.some.inj hcode)
    exact hannotated.establishes .same .same hreturned rfl rfl (.inl rfl) (whole_clear hknows.2)
      ⟨hknows.1, fun _ => rfl⟩
  | unlockAdev failed =>
    obtain ⟨hstandby, hfailed⟩ := hknows
    obtain ⟨rfl, rfl⟩ := Prod.mk.inj (Option.some.inj hcode)
    have hfreed : Whole { before with adevLock := none } := by
      refine ⟨?_, hwhole.unreturned, hwhole.blocked⟩
      intro hset
      rw [hstandby] at hset
      cases hset
    cases failed with
    | true => exact hannotated.establishes .same .frees hreturned rfl rfl (.inl rfl) hfreed (hfailed rfl)
    | false => exact hannotated.establishes .same .frees hreturned rfl rfl (.inl rfl) hfreed trivial
  | restoreStandby =>
    obtain ⟨rfl, rfl⟩ := Prod.mk.inj (Option.some.inj hcode)
    refine hannotated.establishes .same .same hreturned rfl rfl (.inl rfl) ?_ trivial
    exact ⟨fun _ => .inl hknows, hwhole.unreturned, hwhole.blocked⟩
  | setMetadata =>
    obtain ⟨rfl, rfl⟩ := Prod.mk.inj (Option.some.inj hcode)
    exact hannotated.establishes_quiet hwhole ⟨rfl, rfl, rfl, rfl, rfl, rfl⟩ hreturned rfl rfl trivial
  | write =>
    cases input with
    | wrote ret =>
      obtain ⟨rfl, rfl⟩ := Prod.mk.inj (Option.some.inj hcode)
      split <;> exact hannotated.establishes_quiet hwhole ⟨rfl, rfl, rfl, rfl, rfl, rfl⟩ hreturned rfl rfl trivial
    | _ => cases hcode
  | start =>
    obtain ⟨rfl, rfl⟩ := Prod.mk.inj (Option.some.inj hcode)
    split <;> exact hannotated.establishes_quiet hwhole ⟨rfl, rfl, rfl, rfl, rfl, rfl⟩ hreturned rfl rfl trivial

theorem outStandby_establishes {closes : Bool} {pc : StandbyPc} (hwhole : Whole before)
    (hannotated : (ClientPc.outStandby closes pc).Annotated client before)
    (hcode : outStandby client before closes pc = some (next, after)) : next.Establishes client before after := by
  have hreturned : before.returned = true := hannotated.returned.resolve_left nofun
  have hknows := hannotated.knows
  cases pc with
  | testStandby =>
    obtain ⟨rfl, rfl⟩ := Prod.mk.inj (Option.some.inj hcode)
    split <;> exact hannotated.establishes_quiet hwhole ⟨rfl, rfl, rfl, rfl, rfl, rfl⟩ hreturned rfl rfl trivial
  | lockAdev =>
    simp only [outStandby, Option.map_eq_some_iff, OffloadStream.lockAdev_eq_some, Prod.mk.injEq] at hcode
    obtain ⟨_, ⟨hfree, rfl⟩, rfl, rfl⟩ := hcode
    refine hannotated.establishes .same ?_ hreturned rfl rfl (.inl rfl) ?_ trivial
    · rw [hfree]
      exact .takes
    · exact ⟨fun _ => .inr ⟨client, rfl⟩, hwhole.unreturned, hwhole.blocked⟩
  | setStandby =>
    obtain ⟨rfl, rfl⟩ := Prod.mk.inj (Option.some.inj hcode)
    refine hannotated.establishes .same .same hreturned rfl rfl (.inl rfl) ?_ trivial
    exact ⟨fun _ => .inr ⟨client, hannotated.adevLock.mpr rfl⟩, hwhole.unreturned, hwhole.blocked⟩
  | closeCompr =>
    simp only [outStandby] at hcode
    split at hcode
    · next hcompr =>
      obtain ⟨rfl, rfl⟩ := Prod.mk.inj (Option.some.inj hcode)
      exact hannotated.establishes_quiet hwhole ⟨rfl, rfl, rfl, rfl, rfl, rfl⟩ hreturned rfl rfl hcompr
    · obtain ⟨rfl, rfl⟩ := Prod.mk.inj (Option.some.inj hcode)
      exact hannotated.establishes_quiet hwhole ⟨rfl, rfl, rfl, rfl, rfl, rfl⟩ hreturned rfl rfl hknows
  | clearCompr =>
    obtain ⟨rfl, rfl⟩ := Prod.mk.inj (Option.some.inj hcode)
    exact hannotated.establishes .same .same hreturned rfl rfl (.inl rfl) (whole_clear hknows) rfl
  | unlockAdev =>
    obtain ⟨rfl, rfl⟩ := Prod.mk.inj (Option.some.inj hcode)
    refine hannotated.establishes .same .frees hreturned rfl rfl (.inl rfl) ?_ trivial
    exact ⟨fun _ => .inl hknows, hwhole.unreturned, hwhole.blocked⟩

theorem stopCompressedOutput_establishes {caller : StopCaller} {pc : StopPc} (hwhole : Whole before)
    (hannotated : (ClientPc.stopCompressedOutput caller pc).Annotated client before)
    (hcode : stopCompressedOutput client before caller pc = some (next, after)) :
    next.Establishes client before after := by
  have hreturned : before.returned = true := hannotated.returned.resolve_left nofun
  cases pc with
  | reset =>
    obtain ⟨rfl, rfl⟩ := Prod.mk.inj (Option.some.inj hcode)
    split
    · next hcompr =>
      exact hannotated.establishes_quiet hwhole ⟨rfl, rfl, rfl, rfl, rfl, rfl⟩ hreturned caller.next_holdsLock
        (caller.next_holdsAdev _) (caller.next_knows (hwhole.unblocked hcompr))
    · exact hannotated.establishes_quiet hwhole ⟨rfl, rfl, rfl, rfl, rfl, rfl⟩ hreturned rfl (caller.holdsAdev_eq _ _)
        trivial
  | testBlocked =>
    simp only [stopCompressedOutput] at hcode
    split at hcode
    · obtain ⟨rfl, rfl⟩ := Prod.mk.inj (Option.some.inj hcode)
      refine hannotated.establishes .frees ?_ hreturned rfl rfl (.inl rfl) ?_ trivial
      · rw [caller.holdsAdev_eq .waitCond .testBlocked]
        exact .same
      · exact ⟨hwhole.standby, hwhole.unreturned, hwhole.blocked⟩
    · next hblocked =>
      obtain ⟨rfl, rfl⟩ := Prod.mk.inj (Option.some.inj hcode)
      exact hannotated.establishes_quiet hwhole ⟨rfl, rfl, rfl, rfl, rfl, rfl⟩ hreturned caller.next_holdsLock
        (caller.next_holdsAdev _) (caller.next_knows (Bool.eq_false_iff.mpr hblocked))
  | waitCond =>
    simp only [stopCompressedOutput, Option.map_eq_some_iff, OffloadStream.lockStream_eq_some, Prod.mk.injEq] at hcode
    obtain ⟨_, ⟨hfree, rfl⟩, rfl, rfl⟩ := hcode
    refine hannotated.establishes ?_ ?_ hreturned rfl rfl (.inr ⟨rfl, rfl, rfl⟩) ?_ trivial
    · rw [hfree]
      exact .takes
    · rw [caller.holdsAdev_eq .testBlocked .waitCond]
      exact .same
    · exact ⟨hwhole.standby, hwhole.unreturned, hwhole.blocked⟩

theorem ClientPc.code_establishes {input : Input} (hwhole : Whole before) (hannotated : pc.Annotated client before)
    (hcode : pc.code client before input = some (next, after)) : next.Establishes client before after := by
  have hreturned : pc ≠ .idle → before.returned = true := hannotated.returned.resolve_left
  cases pc with
  | idle =>
    cases input with
    | call call =>
      simp only [code, Option.ite_none_right_eq_some, Option.some.injEq, Prod.mk.injEq] at hcode
      obtain ⟨hopen, rfl, rfl⟩ := hcode
      exact hannotated.establishes_quiet hwhole ⟨rfl, rfl, rfl, rfl, rfl, rfl⟩ hopen rfl rfl trivial
    | _ => cases hcode
  | lockPre task =>
    simp only [code, Option.map_eq_some_iff, OffloadStream.lockPreLock_eq_some, Prod.mk.injEq] at hcode
    obtain ⟨_, ⟨-, rfl⟩, rfl, rfl⟩ := hcode
    exact hannotated.establishes_quiet hwhole ⟨rfl, rfl, rfl, rfl, rfl, rfl⟩ (hreturned nofun) rfl rfl trivial
  | lock task =>
    simp only [code, Option.map_eq_some_iff, OffloadStream.lockStream_eq_some, Prod.mk.injEq] at hcode
    obtain ⟨_, ⟨hfree, rfl⟩, rfl, rfl⟩ := hcode
    refine hannotated.establishes ?_ .same (hreturned nofun) rfl rfl (.inr ⟨rfl, rfl, rfl⟩) ?_ trivial
    · rw [hfree]
      exact .takes
    · exact ⟨hwhole.standby, hwhole.unreturned, hwhole.blocked⟩
  | unlockPre task =>
    obtain ⟨rfl, rfl⟩ := Prod.mk.inj (Option.some.inj hcode)
    refine hannotated.establishes_quiet hwhole ⟨rfl, rfl, rfl, rfl, rfl, rfl⟩ (hreturned nofun) ?_ ?_ ?_
    · cases task <;> rfl
    · cases task <;> rfl
    · cases task <;> trivial
  | unlock after =>
    obtain ⟨rfl, rfl⟩ := Prod.mk.inj (Option.some.inj hcode)
    have hfree : after.next.holdsLock = false := by cases after <;> rfl
    have hadev : after.next.holdsAdev = false := by cases after <;> rfl
    refine hannotated.establishes ?_ ?_ (hreturned nofun) rfl rfl (.inl rfl) ?_ (knows_of_unlocked _ hfree)
    · rw [hfree]
      exact .frees
    · rw [hadev]
      exact .same
    · exact ⟨hwhole.standby, hwhole.unreturned, hwhole.blocked⟩
  | outWrite bytes pc => exact outWrite_establishes hwhole hannotated hcode
  | outStandby closes pc => exact outStandby_establishes hwhole hannotated hcode
  | stopCompressedOutput caller pc => exact stopCompressedOutput_establishes hwhole hannotated hcode
  | join =>
    simp only [code, Option.ite_none_right_eq_some, Option.some.injEq, Prod.mk.injEq] at hcode
    obtain ⟨-, rfl, rfl⟩ := hcode
    exact hannotated.establishes_quiet hwhole ⟨rfl, rfl, rfl, rfl, rfl, rfl⟩ (hreturned nofun) rfl rfl trivial
  | outDrain early | sendExit | free =>
    obtain ⟨rfl, rfl⟩ := Prod.mk.inj (Option.some.inj hcode)
    exact hannotated.establishes_quiet hwhole ⟨rfl, rfl, rfl, rfl, rfl, rfl⟩ (hreturned nofun) rfl rfl trivial

end Client

/-! ### The callback thread -/

section Callback

variable {pc next : CallbackPc}

/-- What a step of the callback thread establishes. -/
structure CallbackPc.Establishes (pc : CallbackPc) (before after : OffloadStream ι) : Prop where
  whole : Whole after
  annotated : pc.Annotated after
  guarantee : Guarantee .callback before after

theorem CallbackPc.Annotated.establishes (hwhole : Whole before) (hannotated : pc.Annotated before)
    (hlock : MutexStep .callback pc.holdsLock next.holdsLock before.lock after.lock)
    (hsame : after.adevLock = before.adevLock ∧ after.compr = before.compr ∧ after.standby = before.standby ∧
      after.returned = before.returned)
    (hblocked : after.offloadThreadBlocked = next.isBlocked)
    (hholds : pc.holdsLock = true ∨ next.isBlocked = pc.isBlocked)
    (hset : next.isBlocked = true → before.compr ≠ none) (hcompr : ∀ cmd, next = .block cmd → before.compr ≠ none) :
    next.Establishes before after := by
  obtain ⟨hadev, hcomprSame, hstandby, hreturned⟩ := hsame
  have hstands : after.StandsBy ↔ before.StandsBy := by
    rw [OffloadStream.StandsBy, OffloadStream.StandsBy, hcomprSame, hadev]
  have hwholeAfter : Whole after := by
    constructor
    · rw [hstandby, hstands]
      exact hwhole.standby
    · rw [hreturned, hcomprSame]
      exact hwhole.unreturned
    · rw [hblocked, hcomprSame]
      exact hset
  refine ⟨hwholeAfter, ⟨hlock.own hannotated.lock, hblocked, ?_⟩, ?_⟩
  · rw [hcomprSame]
    exact hcompr
  · refine ⟨fun other hother => hlock.others hannotated.lock hother, ?_, fun hset => hreturned.trans hset,
      fun _ => hreturned, fun hself => absurd rfl hself, fun _ _ _ => hcomprSame, ?_⟩
    · intro other _
      rw [hadev]
    · intro client _ howner
      -- A client that holds the stream excludes that the callback thread does.
      have hunlocked : ¬pc.holdsLock = true := by
        intro hholds
        rw [hannotated.lock.mpr hholds] at howner
        cases howner
      exact ⟨hstandby, hblocked.trans ((hholds.resolve_left hunlocked).trans hannotated.blocked.symm), hstands.mpr⟩

theorem CallbackPc.code_establishes (hwhole : Whole before) (hannotated : pc.Annotated before)
    (hcode : pc.code before = some (next, after)) : next.Establishes before after := by
  have hblocked := hannotated.blocked
  have hset : pc.isBlocked = true → before.compr ≠ none := by
    rw [← hblocked]
    exact hwhole.blocked
  cases pc with
  | lockPre cmd =>
    simp only [code, Option.map_eq_some_iff, OffloadStream.lockPreLock_eq_some, Prod.mk.injEq] at hcode
    obtain ⟨_, ⟨-, rfl⟩, rfl, rfl⟩ := hcode
    have hsame : (lock cmd).isBlocked = (lockPre cmd).isBlocked := by cases cmd <;> rfl
    exact hannotated.establishes hwhole .same ⟨rfl, rfl, rfl, rfl⟩ (hblocked.trans hsame.symm) (.inr hsame)
      (hsame ▸ hset) nofun
  | lock cmd =>
    simp only [code, Option.map_eq_some_iff, OffloadStream.lockStream_eq_some, Prod.mk.injEq] at hcode
    obtain ⟨_, ⟨hfree, rfl⟩, rfl, rfl⟩ := hcode
    have hsame : (unlockPre cmd).isBlocked = (lock cmd).isBlocked := by cases cmd <;> rfl
    refine hannotated.establishes hwhole ?_ ⟨rfl, rfl, rfl, rfl⟩ (hblocked.trans hsame.symm) (.inr hsame)
      (hsame ▸ hset) nofun
    rw [hfree]
    exact .takes
  | unlockPre cmd =>
    cases cmd <;>
      (obtain ⟨rfl, rfl⟩ := Prod.mk.inj (Option.some.inj hcode)
       exact hannotated.establishes hwhole .same ⟨rfl, rfl, rfl, rfl⟩ hblocked (.inr rfl) hset nofun)
  | loop =>
    simp only [code] at hcode
    split at hcode
    · obtain ⟨rfl, rfl⟩ := Prod.mk.inj (Option.some.inj hcode)
      exact hannotated.establishes hwhole .frees ⟨rfl, rfl, rfl, rfl⟩ hblocked (.inr rfl) hset nofun
    · obtain ⟨rfl, rfl⟩ := Prod.mk.inj (Option.some.inj hcode)
      split <;> exact hannotated.establishes hwhole .same ⟨rfl, rfl, rfl, rfl⟩ hblocked (.inr rfl) hset nofun
  | waitCond =>
    simp only [code, Option.map_eq_some_iff, OffloadStream.lockStream_eq_some, Prod.mk.injEq] at hcode
    obtain ⟨_, ⟨hfree, rfl⟩, rfl, rfl⟩ := hcode
    refine hannotated.establishes hwhole ?_ ⟨rfl, rfl, rfl, rfl⟩ hblocked (.inr rfl) hset nofun
    rw [hfree]
    exact .takes
  | testCompr cmd =>
    obtain ⟨rfl, rfl⟩ := Prod.mk.inj (Option.some.inj hcode)
    split
    · exact hannotated.establishes hwhole .same ⟨rfl, rfl, rfl, rfl⟩ hblocked (.inr rfl) hset nofun
    · next hcompr =>
      exact hannotated.establishes hwhole .same ⟨rfl, rfl, rfl, rfl⟩ hblocked (.inr rfl) hset fun _ _ => hcompr
  | block cmd =>
    obtain ⟨rfl, rfl⟩ := Prod.mk.inj (Option.some.inj hcode)
    exact hannotated.establishes hwhole .same ⟨rfl, rfl, rfl, rfl⟩ rfl (.inl rfl)
      (fun _ => hannotated.compr cmd rfl) nofun
  | unlock cmd | unlockExit =>
    obtain ⟨rfl, rfl⟩ := Prod.mk.inj (Option.some.inj hcode)
    exact hannotated.establishes hwhole .frees ⟨rfl, rfl, rfl, rfl⟩ hblocked (.inr rfl) hset nofun
  | call cmd =>
    obtain ⟨rfl, rfl⟩ := Prod.mk.inj (Option.some.inj hcode)
    split <;> exact hannotated.establishes hwhole .same ⟨rfl, rfl, rfl, rfl⟩ hblocked (.inr rfl) hset nofun
  | unblock cmd =>
    obtain ⟨rfl, rfl⟩ := Prod.mk.inj (Option.some.inj hcode)
    exact hannotated.establishes hwhole .same ⟨rfl, rfl, rfl, rfl⟩ rfl (.inl rfl) nofun nofun
  | ended => cases hcode
  | _ =>
    obtain ⟨rfl, rfl⟩ := Prod.mk.inj (Option.some.inj hcode)
    exact hannotated.establishes hwhole .same ⟨rfl, rfl, rfl, rfl⟩ hblocked (.inr rfl) hset nofun

end Callback

/-! ### The opening, and the rest of the device -/

theorem OpenerPc.code_establishes {pc next : OpenerPc} (hwhole : Whole before)
    (hannotated : before.returned = true ↔ pc = .ended)
    (hclients : before.returned = false → ∀ client, before.lock ≠ some (.client client))
    (hothers : pc = .initLock → ∀ other, other ≠ .opener → before.lock ≠ some other)
    (hcode : pc.code before = some (next, after)) :
    Whole after ∧ (after.returned = true ↔ next = .ended) ∧ Guarantee .opener before after := by
  have hunreturned : pc ≠ .ended → before.returned = false := by
    intro hrunning
    exact Bool.eq_false_iff.mpr fun hreturned => hrunning (hannotated.mp hreturned)
  cases pc with
  | setStandby =>
    obtain ⟨rfl, rfl⟩ := Prod.mk.inj (Option.some.inj hcode)
    have hcompr := hwhole.unreturned (hunreturned nofun)
    refine ⟨⟨fun _ => .inl hcompr, hwhole.unreturned, hwhole.blocked⟩, hannotated.trans (by simp), ?_⟩
    refine ⟨fun _ _ => Iff.rfl, fun _ _ => Iff.rfl, id, fun _ => rfl, fun _ => rfl, fun _ _ _ => rfl, ?_⟩
    intro client _ howner
    exact absurd howner (hclients (hunreturned nofun) client)
  | initLock =>
    obtain ⟨rfl, rfl⟩ := Prod.mk.inj (Option.some.inj hcode)
    refine ⟨⟨hwhole.standby, hwhole.unreturned, hwhole.blocked⟩, hannotated.trans (by simp), ?_⟩
    refine ⟨fun other hother => ?_, fun _ _ => Iff.rfl, id, fun _ => rfl, fun _ => rfl, fun _ _ _ => rfl, ?_⟩
    · exact iff_of_false nofun (hothers rfl other hother)
    · exact fun _ _ _ => ⟨rfl, rfl, id⟩
  | initPreLock =>
    obtain ⟨rfl, rfl⟩ := Prod.mk.inj (Option.some.inj hcode)
    refine ⟨⟨hwhole.standby, hwhole.unreturned, hwhole.blocked⟩, hannotated.trans (by simp), ?_⟩
    exact ⟨fun _ _ => Iff.rfl, fun _ _ => Iff.rfl, id, fun _ => rfl, fun _ => rfl, fun _ _ _ => rfl,
      fun _ _ _ => ⟨rfl, rfl, id⟩⟩
  | «return» =>
    obtain ⟨rfl, rfl⟩ := Prod.mk.inj (Option.some.inj hcode)
    refine ⟨⟨hwhole.standby, nofun, hwhole.blocked⟩, iff_of_true rfl rfl, ?_⟩
    exact ⟨fun _ _ => Iff.rfl, fun _ _ => Iff.rfl, fun _ => rfl, fun hself => absurd rfl hself, fun _ => rfl,
      fun _ _ _ => rfl, fun _ _ _ => ⟨rfl, rfl, id⟩⟩
  | ended => cases hcode

theorem elsewhereCode_establishes {holds next : Bool} (hwhole : Whole before)
    (hannotated : ElsewhereAnnotated holds before) (hcode : elsewhereCode before holds = some (next, after)) :
    Whole after ∧ ElsewhereAnnotated next after ∧ Guarantee .elsewhere before after := by
  have hkept : ∀ owner, MutexStep .elsewhere holds next before.adevLock owner →
      after = { before with adevLock := owner } →
      Whole after ∧ ElsewhereAnnotated next after ∧ Guarantee .elsewhere before after := by
    rintro owner hstep rfl
    have hothers : ∀ other, other ≠ .elsewhere → (owner = some other ↔ before.adevLock = some other) :=
      fun other hother => hstep.others hannotated.adevLock hother
    have hstands : before.StandsBy → { before with adevLock := owner }.StandsBy := by
      apply Or.imp_right
      rintro ⟨client, hclient⟩
      exact ⟨client, (hothers (.client client) nofun).mpr hclient⟩
    refine ⟨⟨fun hset => hstands (hwhole.standby hset), hwhole.unreturned, hwhole.blocked⟩,
      ⟨hannotated.lock, hstep.own hannotated.adevLock⟩, ?_⟩
    exact ⟨fun _ _ => Iff.rfl, hothers, id, fun _ => rfl, fun _ => rfl, fun _ _ _ => rfl,
      fun _ _ _ => ⟨rfl, rfl, hstands⟩⟩
  cases holds with
  | false =>
    simp only [elsewhereCode, Option.map_eq_some_iff, OffloadStream.lockAdev_eq_some, Prod.mk.injEq] at hcode
    obtain ⟨_, ⟨hfree, rfl⟩, rfl, rfl⟩ := hcode
    exact hkept _ (hfree ▸ .takes) rfl
  | true =>
    obtain ⟨rfl, rfl⟩ := Prod.mk.inj (Option.some.inj hcode)
    exact hkept _ .frees rfl

/-! ### Runs -/

def SameHandle (before after : OffloadStream ι) : Prop :=
  after.compr = before.compr ∧ after.opened = before.opened ∧ after.closed = before.closed

instance (before after : OffloadStream ι) : Decidable (SameHandle before after) := inferInstanceAs (Decidable (_ ∧ _))

theorem ClientPc.code_sameHandle {client : ι} {pc next : ClientPc} {input : Input} (hwhole : Whole before)
    (hknows : pc.Knows before) (hset : before.offloadThreadBlocked = true)
    (hcode : pc.code client before input = some (next, after)) : SameHandle before after := by
  cases pc with
  | idle => cases input <;> grind [code, SameHandle]
  | outWrite bytes pc =>
    cases pc with
    | openCompr => exact absurd hknows.2 (hwhole.blocked hset)
    | closeUnready | clearUnready => exact absurd hset (by rw [hknows.2]; exact nofun)
    | write => cases input <;> grind [code, Offload.outWrite, SameHandle, OffloadStream.sendOffloadCmd]
    | _ => grind [code, Offload.outWrite, SameHandle, OffloadStream.lockAdev]
  | outStandby closes pc =>
    cases pc with
    | closeCompr | clearCompr => exact absurd hset (by rw [hknows]; exact nofun)
    | _ => grind [code, Offload.outStandby, SameHandle, OffloadStream.lockAdev]
  | stopCompressedOutput caller pc =>
    cases pc <;> grind [code, Offload.stopCompressedOutput, SameHandle, OffloadStream.lockStream]
  | _ =>
    grind [code, SameHandle, OffloadStream.lockStream, OffloadStream.lockPreLock, OffloadStream.sendOffloadCmd]

theorem OpenerPc.code_sameHandle {pc next : OpenerPc} (hcode : pc.code before = some (next, after)) :
    SameHandle before after := by
  cases pc <;> grind [code, SameHandle]

theorem elsewhereCode_sameHandle {holds next : Bool} (hcode : elsewhereCode before holds = some (next, after)) :
    SameHandle before after := by
  cases holds <;> grind [elsewhereCode, SameHandle, OffloadStream.lockAdev]

theorem created_annotated : (created ι).Annotated Whole assertion := by
  refine ⟨⟨nofun, fun _ => rfl, nofun⟩, ?_⟩
  rintro (_ | _ | client | _)
  · exact iff_of_false nofun nofun
  · exact ⟨iff_of_false nofun nofun, rfl, nofun⟩
  · exact ⟨iff_of_false nofun nofun, iff_of_false nofun nofun, .inl rfl, trivial⟩
  · exact ⟨nofun, iff_of_false nofun nofun⟩

section Runs

variable [DecidableEq ι] {state : Session ι}

/-- Where the opening initialises `out->lock`, the callback thread does not hold it. -/
def InitsFree (state : Session ι) (action : Thread ι × Input) : Prop :=
  action.1 = .opener → state.control .opener = .initLock → state.shared.lock ≠ some .callback

/-- While `offload_thread_blocked` is set, a step of another thread neither closes nor replaces the handle. -/
def KeepsHandle (state : Session ι) (action : Thread ι × Input) : Prop :=
  state.shared.offloadThreadBlocked = true → action.1 ≠ .callback →
    ∀ next, Interleaved.step code state action = some next → SameHandle state.shared next.shared

theorem step_annotated {next : Session ι} {action : Thread ι × Input} (hinits : InitsFree state action)
    (hannotated : state.Annotated Whole assertion) (hstep : Interleaved.step code state action = some next) :
    next.Annotated Whole assertion := by
  apply hannotated.step Guarantee hstep
  · intro control hcode
    obtain ⟨thread, input⟩ := action
    cases thread with
    | opener =>
      simp only [code, Option.ite_none_left_eq_some] at hcode
      have hidle : state.shared.returned = false → ∀ client, state.shared.lock ≠ some (.client client) := by
        intro hunreturned client howner
        have hclient : (state.control (.client client)).Annotated client state.shared :=
          hannotated.thread (.client client)
        have hcontrol := hclient.returned.resolve_right (by rw [hunreturned]; exact nofun)
        have hholds := hclient.lock.mp howner
        rw [hcontrol] at hholds
        cases hholds
      apply OpenerPc.code_establishes hannotated.whole (hannotated.thread .opener) hidle _ hcode.2
      rintro hinit (_ | _ | client | _) hother howner
      · exact hother rfl
      · exact hinits rfl hinit howner
      · have hunreturned : state.shared.returned = false := by
          apply Bool.eq_false_iff.mpr
          intro hreturned
          have hended := (hannotated.thread .opener).mp hreturned
          rw [hinit] at hended
          cases hended
        exact hidle hunreturned client howner
      · exact (hannotated.thread .elsewhere).lock howner
    | callback =>
      simp only [code, Option.ite_none_left_eq_some] at hcode
      obtain ⟨hwhole, hown, hguarantee⟩ :=
        CallbackPc.code_establishes hannotated.whole (hannotated.thread .callback) hcode.2
      exact ⟨hwhole, hown, hguarantee⟩
    | client client =>
      simp only [code, Option.ite_none_left_eq_some] at hcode
      obtain ⟨hwhole, hown, hguarantee⟩ :=
        ClientPc.code_establishes hannotated.whole (hannotated.thread (.client client)) hcode.2
      exact ⟨hwhole, hown, hguarantee⟩
    | elsewhere =>
      simp only [code, Option.ite_none_left_eq_some] at hcode
      exact elsewhereCode_establishes hannotated.whole (hannotated.thread .elsewhere) hcode.2
  · intro other hother hguarantee
    exact hguarantee.stable hother

theorem keepsHandle_of_annotated {action : Thread ι × Input} (hannotated : state.Annotated Whole assertion) :
    KeepsHandle state action := by
  intro hset hother next hstep
  obtain ⟨control, hcode, -⟩ := Interleaved.step_cases hstep
  obtain ⟨thread, input⟩ := action
  cases thread with
  | callback => exact absurd rfl hother
  | opener =>
    simp only [code, Option.ite_none_left_eq_some] at hcode
    exact OpenerPc.code_sameHandle hcode.2
  | client client =>
    simp only [code, Option.ite_none_left_eq_some] at hcode
    exact ClientPc.code_sameHandle hannotated.whole (hannotated.thread (.client client)).knows hset hcode.2
  | elsewhere =>
    simp only [code, Option.ite_none_left_eq_some] at hcode
    exact elsewhereCode_sameHandle hcode.2

/-- In a run in which the mutex is free or held by a client where it is initialised, no other thread closes or
replaces the handle while the callback thread uses it. -/
theorem handle_kept {actions : List (Thread ι × Input)}
    (hinits : RunMeets (Interleaved.step code) InitsFree (created ι) actions) :
    RunMeets (Interleaved.step code) KeepsHandle (created ι) actions := by
  apply RunMeets.imp_of_meets (fun state => state.Annotated Whole assertion) _ _ _ created_annotated hinits
  · intro state action next hinits hannotated hstep
    exact step_annotated hinits hannotated hstep
  · intro state action hannotated _
    exact keepsHandle_of_annotated hannotated

instance (state : Session ι) (action : Thread ι × Input) : Decidable (InitsFree state action) :=
  inferInstanceAs (Decidable (_ → _ → _))

instance (state : Session ι) (action : Thread ι × Input) : Decidable (KeepsHandle state action) :=
  match hstep : Interleaved.step code state action with
  | none => isTrue (by simp [KeepsHandle, hstep])
  | some next =>
    decidable_of_iff (state.shared.offloadThreadBlocked = true → action.1 ≠ .callback →
      SameHandle state.shared next.shared) (by simp [KeepsHandle, hstep])

end Runs

/-! ### Two clients -/

def steps (thread : Thread ℕ) (count : ℕ) : List (Thread ℕ × Input) := List.replicate count (thread, .go)

def writePart : List (Thread ℕ × Input) :=
  (.client 0, .call (.write 10)) :: steps (.client 0) 5 ++ [(.client 0, .handle true)] ++ steps (.client 0) 2 ++
    [(.client 0, .wrote 4)] ++ steps (.client 0) 2

def enterStandby : List (Thread ℕ × Input) := (.client 1, .call .standby) :: steps (.client 1) 8

/-- The mutexes are initialised before the callback thread runs, and the standby waits for it. -/
theorem handle_kept_openedFirst :
    RunMeets (Interleaved.step code) KeepsHandle (created ℕ)
      (steps .opener 4 ++ writePart ++ steps .callback 8 ++ enterStandby ++ steps .callback 7 ++ steps (.client 1) 6) :=
  handle_kept (by decide)

/-- The callback thread has `out->lock` when it is initialised: later a client locks it too, and closes the handle
behind its test of the flag, which the callback thread has set meanwhile. -/
theorem lockedWhileInitialised_closed :
    ¬RunMeets (Interleaved.step code) KeepsHandle (created ℕ)
      (steps .callback 4 ++ steps .opener 4 ++ writePart ++ steps .callback 2 ++ enterStandby ++ steps .callback 1 ++
        steps (.client 1) 1) := by
  decide

end Nozomi.Offload
