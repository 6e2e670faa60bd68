import Nozomi.Audio.VoiceProcessing.Masks

/-!
# The sessions of the library

The calls on effects that were created and not released keep the masks, the list of the sessions and the
handles in step, and none of them aborts. An effect is enabled without a configuration only after it was
disabled without one.
-/

namespace Nozomi

namespace VoiceProcessing

variable {product : ProductDescriptors} {library next : VoiceProcessing} {live : List VoiceHandle}

def stateOf (library : VoiceProcessing) (handle : VoiceHandle) : Nat :=
  (library.sessions handle.session).effects handle.id

/-- The sessions in the list are those with an effect, one for each input stream, and the effects of the handles
are those that were created. -/
structure Sound (library : VoiceProcessing) (live : List VoiceHandle) : Prop where
  session : ∀ address, (library.sessions address).Sound
  nodup : library.sessionList.Nodup
  listed : ∀ address, address ∈ library.sessionList ↔ (library.sessions address).createdMsk ≠ 0
  fresh : ∀ address ∈ library.sessionList, address < library.allocated
  ios : ∀ first ∈ library.sessionList, ∀ second ∈ library.sessionList,
    (library.sessions first).io = (library.sessions second).io → first = second
  live : ∀ handle, handle ∈ live ↔ handle.id < numId ∧ library.stateOf handle ≠ voiceStateInit

theorem Sound.init : VoiceProcessing.init.Sound [] where
  session _ := VoiceSession.Sound.of_init (fun _ _ => rfl) rfl rfl
  nodup := List.nodup_nil
  listed address := by simp [VoiceProcessing.init, VoiceSession.allocated]
  fresh _ hlisted := absurd hlisted List.not_mem_nil
  ios _ hlisted := absurd hlisted List.not_mem_nil
  live handle := by simp [stateOf, VoiceProcessing.init, VoiceSession.allocated]

theorem Sound.mem_sessionList (hsound : library.Sound live) {handle : VoiceHandle} (hlive : handle ∈ live) :
    handle.session ∈ library.sessionList := by
  obtain ⟨hid, hcreated⟩ := (hsound.live handle).mp hlive
  rw [hsound.listed, Ne, (hsound.session handle.session).createdMsk_eq_zero]
  exact fun hinit => hcreated (hinit handle.id hid)

@[simp] theorem setSession_sessions_self (library : VoiceProcessing) (address : Nat) (session : VoiceSession) :
    (library.setSession address session).sessions address = session := Function.update_self _ _ _

theorem setSession_sessions_of_ne {address other : Nat} (hne : other ≠ address) (session : VoiceSession) :
    (library.setSession address session).sessions other = library.sessions other := Function.update_of_ne hne _ _

theorem Sound.put (hsound : library.Sound live) {address : Nat} {after : List VoiceHandle}
    (hothers : ∀ other, other ≠ address → next.sessions other = library.sessions other)
    (hsession : (next.sessions address).Sound) (hnodup : next.sessionList.Nodup)
    (hlist : ∀ other, other ∈ next.sessionList ↔
      if other = address then (next.sessions address).createdMsk ≠ 0 else other ∈ library.sessionList)
    (hfresh : ∀ other ∈ next.sessionList, other < next.allocated)
    (hio : (next.sessions address).createdMsk ≠ 0 → ∀ other ∈ library.sessionList, other ≠ address →
      (library.sessions other).io ≠ (next.sessions address).io)
    (hlive : ∀ handle, handle ∈ after ↔
      if handle.session = address then handle.id < numId ∧ next.stateOf handle ≠ voiceStateInit
      else handle ∈ live) :
    next.Sound after := by
  refine ⟨fun other => ?_, hnodup, fun other => ?_, hfresh, fun first hfirst second hsecond => ?_, fun handle => ?_⟩
  · by_cases hsame : other = address
    · rwa [hsame]
    · rw [hothers other hsame]
      exact hsound.session other
  · rw [hlist]
    by_cases hsame : other = address
    · rw [if_pos hsame, hsame]
    · rw [if_neg hsame, hothers other hsame]
      exact hsound.listed other
  · rw [hlist] at hfirst hsecond
    by_cases hone : first = address <;> by_cases htwo : second = address
    · exact fun _ => hone.trans htwo.symm
    · rw [if_pos hone] at hfirst
      rw [if_neg htwo] at hsecond
      rw [hone, hothers second htwo]
      exact fun hsame => absurd hsame.symm (hio hfirst second hsecond htwo)
    · rw [if_neg hone] at hfirst
      rw [if_pos htwo] at hsecond
      rw [htwo, hothers first hone]
      exact fun hsame => absurd hsame (hio hsecond first hfirst hone)
    · rw [if_neg hone] at hfirst
      rw [if_neg htwo] at hsecond
      rw [hothers first hone, hothers second htwo]
      exact hsound.ios first hfirst second hsecond
  · rw [hlive]
    by_cases hsame : handle.session = address
    · rw [if_pos hsame]
    · rw [if_neg hsame, hsound.live]
      unfold stateOf
      rw [hothers _ hsame]

theorem Sound.setSession (hsound : library.Sound live) {address : Nat} {session : VoiceSession}
    (hsession : session.Sound) (hio : session.io = (library.sessions address).io)
    (hmask : session.createdMsk = (library.sessions address).createdMsk) :
    (library.setSession address session).Sound live := by
  have hself := library.setSession_sessions_self address session
  have hlist : ∀ other, other ∈ library.sessionList ↔
      if other = address then ((library.setSession address session).sessions address).createdMsk ≠ 0
      else other ∈ library.sessionList := by
    intro other
    split
    next hsame => rw [hself, hmask, hsame, hsound.listed]
    next => rfl
  refine hsound.put (fun other hne => setSession_sessions_of_ne hne session) (by rwa [hself]) hsound.nodup hlist
    hsound.fresh (fun hsome other hother hne hsame => ?_) fun handle => ?_
  · rw [hself, hmask, ← hsound.listed] at hsome
    rw [hself, hio] at hsame
    exact hne (hsound.ios other hother address hsome hsame)
  · split
    next hsame =>
      rw [hsound.live]
      refine and_congr_right fun hid => ?_
      unfold stateOf
      rw [hsame, hself, ← hsession.created handle.id hid, hmask, (hsound.session address).created handle.id hid]
    next => rfl

/-! ### Commands -/

theorem stateOf_setSession {handle : VoiceHandle} {state : Nat} {session : VoiceSession}
    (hmoved : (library.sessions handle.session).Moved handle.id state session) (other : VoiceHandle) :
    (library.setSession handle.session session).stateOf other =
      if other = handle ∧ VoiceSession.Accepts (library.stateOf handle) state then state
      else library.stateOf other := by
  unfold stateOf
  by_cases hsession : other.session = handle.session
  · rw [hsession, setSession_sessions_self]
    by_cases hid : other.id = handle.id
    · have hsame : other = handle := by
        cases other
        cases handle
        simp_all
      rw [hid, hmoved.effects_self]
      simp only [hsame, true_and]
    · have hne : other ≠ handle := fun hsame => hid (congrArg VoiceHandle.id hsame)
      rw [hmoved.effects_of_ne hid, if_neg (fun hboth => hne hboth.1)]
  · have hne : other ≠ handle := fun hsame => hsession (congrArg VoiceHandle.session hsame)
    rw [setSession_sessions_of_ne hsession, if_neg (fun hboth => hne hboth.1)]

theorem Sound.replyState (hsound : library.Sound live) {handle : VoiceHandle} (hlive : handle ∈ live) {state : Nat}
    (hstate : state = voiceStateConfig ∨ state = voiceStateActive) :
    ∃ next, library.replyState handle state =
        some (0, some (if VoiceSession.Accepts (library.stateOf handle) state then 0 else -enosys), next) ∧
      next.Sound live ∧
      ∀ other, next.stateOf other =
        if other = handle ∧ VoiceSession.Accepts (library.stateOf handle) state then state
        else library.stateOf other := by
  have hid := ((hsound.live handle).mp hlive).1
  have hknown : state ≤ voiceStateActive := by
    obtain hconfig | hactive := hstate
    · rw [hconfig]; decide
    · exact Nat.le_of_eq hactive
  obtain ⟨session, hresult, hmoved⟩ :=
    VoiceSession.effectSetState_spec (hsound.session handle.session).toMarked hid hknown
  refine ⟨library.setSession handle.session session, ?_, ?_, stateOf_setSession hmoved⟩
  · unfold VoiceProcessing.replyState
    rw [hresult]
    rfl
  · exact hsound.setSession (hmoved.sound (hsound.session handle.session) hstate) hmoved.io hmoved.createdMsk

theorem accepts_config {old : Nat} (hcreated : old ≠ voiceStateInit) :
    VoiceSession.Accepts old voiceStateConfig :=
  ⟨fun hsame => absurd hsame (by decide), fun _ => hcreated, fun hsame => absurd hsame (by decide)⟩

theorem accepts_active (old : Nat) : VoiceSession.Accepts old voiceStateActive ↔ voiceStateConfig ≤ old :=
  ⟨fun haccepted => haccepted.2.2 rfl,
    fun hold => ⟨fun hsame => absurd hsame (by decide), fun hsame => absurd hsame (by decide), fun _ => hold⟩⟩

def stateAfter (old : Nat) (command : VoiceCommand) (args : VoiceCommandArgs) (reply : Option Int) : Nat :=
  match command with
  | .setConfig _ => if reply = some 0 ∧ old ≠ voiceStateActive then voiceStateConfig else old
  | .disable => if reply = some 0 then voiceStateConfig else old
  | .enable => if args.badReply = false ∧ voiceStateConfig ≤ old then voiceStateActive else old
  | _ => old

theorem sessionSetConfig_keeps (session : VoiceSession) (config : EffectConfig) :
    (session.sessionSetConfig config).2.effects = session.effects ∧
      (session.sessionSetConfig config).2.createdMsk = session.createdMsk ∧
      (session.sessionSetConfig config).2.enabledMsk = session.enabledMsk ∧
      (session.sessionSetConfig config).2.io = session.io := by
  unfold VoiceSession.sessionSetConfig
  split_ifs <;> exact ⟨rfl, rfl, rfl, rfl⟩

theorem Sound.setConfig (hsound : library.Sound live) {handle : VoiceHandle} (hlive : handle ∈ live)
    (config : EffectConfig) (args : VoiceCommandArgs) :
    ∃ reply next, library.setConfig handle config = some (0, some reply, next) ∧ next.Sound live ∧
      ∀ other, next.stateOf other =
        if other = handle then stateAfter (library.stateOf handle) (.setConfig (some config)) args (some reply)
        else library.stateOf other := by
  obtain ⟨heffects, hcreated, henabled, hio⟩ :=
    sessionSetConfig_keeps (library.sessions handle.session) config
  have hold := hsound.session handle.session
  unfold VoiceProcessing.setConfig
  generalize (library.sessions handle.session).sessionSetConfig config = result at heffects hcreated henabled hio ⊢
  obtain ⟨reply, session⟩ := result
  dsimp only at heffects hcreated henabled hio ⊢
  have hsession : session.Sound :=
    ⟨⟨heffects ▸ hold.known, by rw [heffects, henabled]; exact hold.enabled⟩,
      by rw [heffects, hcreated]; exact hold.created, by rw [hcreated]; exact hold.high⟩
  have hput := hsound.setSession hsession hio hcreated
  have hsame : ∀ other, (library.setSession handle.session session).stateOf other = library.stateOf other := by
    intro other
    unfold stateOf
    by_cases hother : other.session = handle.session
    · rw [hother, setSession_sessions_self, heffects]
    · rw [setSession_sessions_of_ne hother]
  have hconfigured : (library.setSession handle.session session).stateOf handle = session.effects handle.id := by
    unfold stateOf
    rw [setSession_sessions_self]
  by_cases hrefused : reply ≠ 0
  · rw [if_pos hrefused]
    refine ⟨reply, _, rfl, hput, fun other => ?_⟩
    have hafter : stateAfter (library.stateOf handle) (.setConfig (some config)) args (some reply) =
        library.stateOf handle := by
      simp [stateAfter, hrefused]
    rw [hafter, hsame]
    split
    next heq => rw [heq]
    next => rfl
  obtain rfl := not_not.mp hrefused
  rw [if_neg hrefused]
  by_cases hactive : session.effects handle.id ≠ voiceStateActive
  · obtain ⟨next, hreply, hsound, hstates⟩ := hput.replyState hlive (.inl rfl)
    have haccepted : VoiceSession.Accepts ((library.setSession handle.session session).stateOf handle)
        voiceStateConfig :=
      accepts_config ((hput.live handle).mp hlive).2
    rw [if_pos haccepted] at hreply
    rw [if_pos hactive]
    refine ⟨0, next, hreply, hsound, fun other => ?_⟩
    rw [hstates, hsame other]
    rw [← hconfigured, hsame] at hactive
    simp only [haccepted, and_true, stateAfter, ne_eq, hactive, not_false_eq_true, if_true]
  · rw [if_neg hactive]
    refine ⟨0, _, rfl, hput, fun other => ?_⟩
    rw [← hconfigured, hsame] at hactive
    rw [hsame]
    split
    next heq => rw [heq]; simp [stateAfter, hactive]
    next => rfl

theorem Sound.fxCommand (hsound : library.Sound live) {handle : VoiceHandle} (hlive : handle ∈ live)
    (command : VoiceCommand) (args : VoiceCommandArgs) :
    ∃ status reply next, library.fxCommand (some handle) command args = some (status, reply, next) ∧
      next.Sound live ∧ ∀ other, next.stateOf other =
        if other = handle then stateAfter (library.stateOf handle) command args reply else library.stateOf other := by
  have hkept (result : Int) (written : Option Int)
      (hafter : stateAfter (library.stateOf handle) command args written = library.stateOf handle) :
      ∃ status reply next, some (result, written, library) = some (status, reply, next) ∧ next.Sound live ∧
        ∀ other, next.stateOf other =
          if other = handle then stateAfter (library.stateOf handle) command args reply
          else library.stateOf other := by
    refine ⟨result, written, library, rfl, hsound, fun other => ?_⟩
    rw [hafter]
    split
    next heq => rw [heq]
    next => rfl
  unfold VoiceProcessing.fxCommand
  cases command <;> dsimp only
  case init => split <;> exact hkept _ _ rfl
  case getConfig => split <;> exact hkept _ _ rfl
  case reset => exact hkept _ _ rfl
  case getParam => split <;> exact hkept _ _ rfl
  case setParam psize =>
    split
    · exact hkept _ _ rfl
    · split <;> exact hkept _ _ rfl
  case setConfig config =>
    cases config with
    | none => exact hkept _ _ rfl
    | some config =>
      dsimp only
      split
      · exact hkept _ _ rfl
      · obtain ⟨reply, next, hresult⟩ := hsound.setConfig hlive config args
        exact ⟨0, some reply, next, hresult⟩
  case enable =>
    split
    next hbad => exact hkept _ _ (by simp [stateAfter, hbad])
    next hgood =>
      obtain ⟨next, hresult, hnext, hstates⟩ := hsound.replyState hlive (.inr rfl)
      refine ⟨0, _, next, hresult, hnext, fun other => ?_⟩
      rw [hstates]
      simp only [accepts_active, stateAfter, Bool.eq_false_iff.mpr hgood, true_and]
      by_cases hsame : other = handle
      · simp only [hsame, true_and, if_true]
      · simp only [hsame, false_and, if_false]
  case disable =>
    split
    · exact hkept _ _ rfl
    · obtain ⟨next, hresult, hnext, hstates⟩ := hsound.replyState hlive (.inl rfl)
      have haccepted := accepts_config ((hsound.live handle).mp hlive).2
      refine ⟨0, _, next, hresult, hnext, fun other => ?_⟩
      simp only [hstates, haccepted, and_true, stateAfter, if_true]
  case setDevice => split <;> exact hkept _ _ rfl
  case setInputDevice => split <;> exact hkept _ _ rfl
  case setVolume => split <;> exact hkept _ _ rfl
  case setAudioMode => split <;> exact hkept _ _ rfl
  case other => exact hkept _ _ rfl

/-! ### Release -/

theorem Sound.dropEffect (hsound : library.Sound live) {handle : VoiceHandle} {session : VoiceSession}
    (hlisted : handle.session ∈ library.sessionList) (hsession : session.Sound)
    (hio : session.io = (library.sessions handle.session).io)
    (hreleased : session.effects handle.id = voiceStateInit)
    (hkept : ∀ id, id ≠ handle.id → session.effects id = (library.sessions handle.session).effects id)
    (hsessions : next.sessions = (library.setSession handle.session session).sessions)
    (hlist : next.sessionList =
      if session.createdMsk = 0 then library.sessionList.erase handle.session else library.sessionList)
    (hallocated : next.allocated = library.allocated) :
    next.Sound (live.filter (· ≠ handle)) ∧
      ∀ other, other ≠ handle → next.stateOf other = library.stateOf other := by
  have hself : next.sessions handle.session = session := by rw [hsessions, setSession_sessions_self]
  have hothers : ∀ other, other ≠ handle.session → next.sessions other = library.sessions other := by
    intro other hne
    rw [hsessions, setSession_sessions_of_ne hne]
  have hstates : ∀ other, other ≠ handle → next.stateOf other = library.stateOf other := by
    intro other hne
    unfold stateOf
    by_cases hsame : other.session = handle.session
    · have hid : other.id ≠ handle.id := by
        intro hid
        cases other
        cases handle
        simp_all
      rw [hsame, hself, hkept other.id hid]
    · rw [hothers _ hsame]
  have hgone : next.stateOf handle = voiceStateInit := by
    unfold stateOf
    rw [hself, hreleased]
  have hmem : ∀ other, other ∈ next.sessionList ↔
      if other = handle.session then session.createdMsk ≠ 0 else other ∈ library.sessionList := by
    intro other
    rw [hlist]
    by_cases hlast : session.createdMsk = 0
    · rw [if_pos hlast, hsound.nodup.mem_erase_iff]
      split <;> simp [*]
    · rw [if_neg hlast]
      split
      next hsame => exact iff_of_true (hsame ▸ hlisted) hlast
      next => rfl
  refine ⟨hsound.put hothers (by rwa [hself]) ?_ (by rwa [hself]) ?_ ?_ ?_, hstates⟩
  · rw [hlist]
    split
    · exact hsound.nodup.erase _
    · exact hsound.nodup
  · intro other hother
    rw [hallocated]
    rw [hmem] at hother
    split at hother
    next hsame => exact hsame ▸ hsound.fresh _ hlisted
    next => exact hsound.fresh other hother
  · intro _ other hother hne hsame
    rw [hself, hio] at hsame
    exact hne (hsound.ios other hother _ hlisted hsame)
  · intro other
    rw [List.mem_filter, decide_eq_true_eq]
    by_cases hother : other = handle
    · simp [hother, hgone]
    · rw [hstates other hother, hsound.live]
      split <;> simp [hother]

theorem Sound.libRelease (hsound : library.Sound live) {handle : VoiceHandle} (hlive : handle ∈ live) :
    ∃ next, library.libRelease handle = some (0, next) ∧ next.Sound (live.filter (· ≠ handle)) ∧
      ∀ other, other ≠ handle → next.stateOf other = library.stateOf other := by
  have hlisted := hsound.mem_sessionList hlive
  have hid := ((hsound.live handle).mp hlive).1
  obtain ⟨moved, hresult, hmoved⟩ :=
    VoiceSession.effectSetState_spec (hsound.session handle.session).toMarked hid (Nat.zero_le voiceStateActive)
  have haccepted : VoiceSession.Accepts ((library.sessions handle.session).effects handle.id) voiceStateInit := by
    simp [VoiceSession.Accepts]
  have hreleased : moved.effects handle.id = voiceStateInit := by rw [hmoved.effects_self, if_pos haccepted]
  unfold VoiceProcessing.libRelease sessionReleaseEffect
  rw [if_pos hlisted, hresult]
  refine ⟨_, rfl, hsound.dropEffect hlisted (hmoved.sound_release (hsound.session handle.session)) hmoved.io hreleased
    (fun _ hne => hmoved.effects_of_ne hne) ?_ ?_ ?_⟩ <;> dsimp only <;> split <;> rfl

/-! ### Creation -/

theorem Sound.addEffect (hsound : library.Sound live) {created : VoiceHandle} {session : VoiceSession}
    (hid : created.id < numId) (hsession : session.Sound)
    (heffects : ∀ id < numId, session.effects id =
      if id = created.id then voiceStateCreated else (library.sessions created.session).effects id)
    (hinit : (library.sessions created.session).effects created.id = voiceStateInit)
    (hsessions : next.sessions = (library.setSession created.session session).sessions)
    (hlist : ∀ other, other ∈ next.sessionList ↔ other = created.session ∨ other ∈ library.sessionList)
    (hnodup : next.sessionList.Nodup) (hfresh : ∀ other ∈ next.sessionList, other < next.allocated)
    (hio : ∀ other ∈ library.sessionList, other ≠ created.session → (library.sessions other).io ≠ session.io) :
    created ∉ live ∧ next.Sound (created :: live) ∧ next.stateOf created = voiceStateCreated ∧
      ∀ other ∈ live, next.stateOf other = library.stateOf other := by
  have hself : next.sessions created.session = session := by rw [hsessions, setSession_sessions_self]
  have hothers : ∀ other, other ≠ created.session → next.sessions other = library.sessions other := by
    intro other hne
    rw [hsessions, setSession_sessions_of_ne hne]
  have hnew : next.stateOf created = voiceStateCreated := by
    unfold stateOf
    rw [hself, heffects _ hid, if_pos rfl]
  have hstates : ∀ other, other.id < numId → other ≠ created → next.stateOf other = library.stateOf other := by
    intro other hother hne
    unfold stateOf
    by_cases hsame : other.session = created.session
    · have hdifferent : other.id ≠ created.id := by
        intro hsameId
        cases other
        cases created
        simp_all
      rw [hsame, hself, heffects _ hother, if_neg hdifferent]
    · rw [hothers _ hsame]
  have hnotLive : created ∉ live := fun hlive => ((hsound.live created).mp hlive).2 hinit
  have hsome : session.createdMsk ≠ 0 := by
    rw [Ne, hsession.createdMsk_eq_zero]
    intro hall
    have hnone := hall created.id hid
    rw [heffects _ hid, if_pos rfl] at hnone
    exact absurd hnone (by decide)
  refine ⟨hnotLive, hsound.put hothers (by rwa [hself]) hnodup ?_ hfresh ?_ ?_, hnew, fun other hother => ?_⟩
  · intro other
    rw [hlist, hself]
    split
    next hsame => exact iff_of_true (.inl hsame) hsome
    next hne => simp [hne]
  · rw [hself]
    exact fun _ => hio
  · intro other
    rw [List.mem_cons]
    by_cases hother : other = created
    · simp [hother, hnew, hid]
    · rw [hsound.live]
      split
      next hsame =>
        refine (or_iff_right hother).trans (and_congr_right fun hbound => ?_)
        rw [hstates other hbound hother]
      next => simp [hother]
  · refine hstates other ((hsound.live other).mp hother).1 ?_
    rintro rfl
    exact hnotLive hother

theorem Sound.libCreate (hproduct : ∀ desc ∈ product.descriptors, desc.type ∈ uuidToIdTable)
    (hsound : library.Sound live) (uuid : EffectUuid) (sessionId ioId : Int) :
    ∃ status handle next, library.libCreate product uuid sessionId ioId true = some (status, handle, next) ∧
      (status ≠ 0 ∧ next = library ∨
        status = 0 ∧ ∃ created, handle = some created ∧ created ∉ live ∧ next.Sound (created :: live) ∧
          next.stateOf created = voiceStateCreated ∧
          ∀ other ∈ live, next.stateOf other = library.stateOf other) := by
  unfold VoiceProcessing.libCreate
  cases hdesc : product.getDescriptor uuid with
  | none => exact ⟨_, _, _, rfl, .inl ⟨by decide, rfl⟩⟩
  | some desc =>
    have hid : uuidToId desc.type < numId :=
      List.idxOf_lt_length_iff.mpr (hproduct desc (List.mem_of_find?_eq_some hdesc))
    dsimp only
    generalize uuidToId desc.type = id at hid
    unfold VoiceProcessing.getSession
    cases hfound : library.sessionList.find? fun address => (library.sessions address).io = ioId with
    | some address =>
      have hlisted := List.mem_of_find?_eq_some hfound
      have hio : (library.sessions address).io = ioId := by simpa using List.find?_some hfound
      dsimp only
      by_cases hcreated : (library.sessions address).createdMsk &&& (1 : BitVec 32) <<< id ≠ 0
      · rw [if_pos hcreated]
        exact ⟨_, _, _, rfl, .inl ⟨by decide, rfl⟩⟩
      rw [if_neg hcreated]
      have hinit : (library.sessions address).effects id = voiceStateInit := by
        rw [and_bit_ne_zero _ (Nat.lt_trans hid (by decide)), (hsound.session address).created id hid] at hcreated
        exact not_not.mp hcreated
      obtain ⟨session, hresult, hsession, hsameIo, heffects⟩ :=
        (hsound.session address).sessionCreateEffect hid hinit
      dsimp only
      rw [hresult]
      refine ⟨_, _, _, rfl, .inr ⟨rfl, ⟨address, id⟩, rfl, ?_⟩⟩
      refine @Sound.addEffect library _ live hsound ⟨address, id⟩ session hid hsession (fun other _ => ?_) hinit
        rfl (fun other => ?_) hsound.nodup hsound.fresh fun other hother hne hsame => ?_
      · rw [heffects, Function.update_apply]
      · exact ⟨.inr, fun hmem => hmem.elim (fun hsame => hsame ▸ hlisted) fun hlisted => hlisted⟩
      · exact hne (hsound.ios other hother address hlisted (hsame.trans hsameIo))
    | none =>
      have hfree : ∀ other ∈ library.sessionList, (library.sessions other).io ≠ ioId := by
        simpa using List.find?_eq_none.mp hfound
      have hfresh : library.allocated ∉ library.sessionList := fun hmem => Nat.lt_irrefl _ (hsound.fresh _ hmem)
      have hunused : (library.sessions library.allocated).createdMsk = 0 := by
        rw [hsound.listed] at hfresh
        exact not_not.mp hfresh
      have hinit := (hsound.session library.allocated).createdMsk_eq_zero.mp hunused
      let fresh : VoiceSession := { VoiceSession.allocated.sessionInit with id := sessionId, io := ioId }
      have hnew : fresh.Sound := VoiceSession.Sound.of_init (fun other hother => if_pos hother) rfl rfl
      obtain ⟨session, hresult, hsession, hsameIo, heffects⟩ := hnew.sessionCreateEffect hid (if_pos hid)
      dsimp only
      rw [if_neg (by decide)]
      dsimp only
      rw [setSession_sessions_self, hresult]
      refine ⟨_, _, _, rfl, .inr ⟨rfl, ⟨library.allocated, id⟩, rfl, ?_⟩⟩
      refine @Sound.addEffect library _ live hsound ⟨library.allocated, id⟩ session hid hsession
        (fun other hother => ?_) (hinit id hid) (Function.update_idem _ _ _) (fun other => ?_) ?_ ?_ ?_
      · rw [heffects, Function.update_apply, hinit other hother]
        congr 1
        exact if_pos hother
      · exact List.mem_append.trans ((or_congr_right List.mem_singleton).trans or_comm)
      · refine List.nodup_append.mpr ⟨hsound.nodup, by simp, fun other hother another hanother => ?_⟩
        rw [List.mem_singleton.mp hanother]
        exact Nat.ne_of_lt (hsound.fresh other hother)
      · intro other hother
        obtain hmem | hmem := List.mem_append.mp hother
        · exact Nat.lt_succ_of_lt (hsound.fresh other hmem)
        · rw [List.mem_singleton.mp hmem]
          exact Nat.lt_succ_self _
      · exact fun other hother _ hsame => hfree other hother (hsame.trans hsameIo)

end VoiceProcessing

end Nozomi
