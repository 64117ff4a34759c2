import RelayTerm.Lib.Log
/-!
# The replay ring

`ReplayBuffer` keeps the most recent output frames of a live PTY, within a
bound on their number and one on their bytes, and answers a bookmark with the
frames after it or with the news that the window is lost. The forwarder pushes
frames in the order it stamps them, so the ring always is a contiguous stretch
that ends at the latest sequence number.
-/
open RelayTerm.Lib

namespace RelayTerm.Stream

/-- One output frame: the sequence number the forwarder stamped and the raw bytes. -/
structure OutputFrame where
  seq : Nat
  data : List UInt8
  deriving DecidableEq, Repr

structure ReplayBufferConfig where
  maxFrames : Nat
  maxBytes : Nat
  deriving DecidableEq, Repr

def ReplayBufferConfig.default : ReplayBufferConfig := ⟨1024, 1 <<< 20⟩

structure ReplayBuffer where
  config : ReplayBufferConfig
  frames : List OutputFrame
  bytes : Nat
  /-- The highest sequence number ever pushed; it survives eviction. -/
  latestSeq : Nat
  deriving DecidableEq, Repr

structure ReplayRange where
  frames : List OutputFrame
  latestSeq : Nat
  deriving DecidableEq, Repr

structure ReplayWindowLost where
  requested : Nat
  oldestAvailable : Option Nat
  latest : Nat
  deriving DecidableEq, Repr

def ReplayBuffer.new (config : ReplayBufferConfig) : ReplayBuffer := ⟨config, [], 0, 0⟩

/-- The largest `usize`: `bytes` saturates there. -/
def usizeMax : Nat := 0xFFFF_FFFF_FFFF_FFFF

/-- The loop of `push`: frames leave at the front until both bounds hold; the
last frame always stays. -/
def evict (config : ReplayBufferConfig) : List OutputFrame → Nat → List OutputFrame × Nat
  | dropped :: next :: rest, bytes =>
    if (dropped :: next :: rest).length > config.maxFrames ∨ bytes > config.maxBytes then
      evict config (next :: rest) (bytes - dropped.data.length)
    else (dropped :: next :: rest, bytes)
  | frames, bytes => (frames, bytes)

def ReplayBuffer.push (b : ReplayBuffer) (frame : OutputFrame) : ReplayBuffer :=
  let kept := evict b.config (b.frames ++ [frame]) (min (b.bytes + frame.data.length) usizeMax)
  { b with frames := kept.1, bytes := kept.2, latestSeq := frame.seq }

def ReplayBuffer.replaySince (b : ReplayBuffer) (lastSeenSeq : Option Nat) :
    Except ReplayWindowLost ReplayRange :=
  let bookmark := lastSeenSeq.getD 0
  match b.frames.head? with
  | none => .ok ⟨[], b.latestSeq⟩
  | some oldest =>
    if bookmark ≥ b.latestSeq then .ok ⟨[], b.latestSeq⟩
    else if bookmark > 0 ∧ bookmark + 1 < oldest.seq then .error ⟨bookmark, some oldest.seq, b.latestSeq⟩
    else .ok ⟨b.frames.filter (bookmark < ·.seq), b.latestSeq⟩

/-! ## The ring is a contiguous stretch -/

/-- The frames kept are the last ones pushed, without a hole. -/
structure ReplayBuffer.Contiguous (b : ReplayBuffer) : Prop where
  numbered : Numbered OutputFrame.seq (b.latestSeq + 1 - b.frames.length) b.frames
  fits : b.frames.length ≤ b.latestSeq
  kept : b.frames = [] → b.latestSeq = 0

theorem new_contiguous (config : ReplayBufferConfig) : (ReplayBuffer.new config).Contiguous :=
  ⟨trivial, Nat.le_refl 0, fun _ => rfl⟩

theorem evict_suffix (config : ReplayBufferConfig) (frames : List OutputFrame) (bytes : Nat) :
    (evict config frames bytes).1 <:+ frames := by
  fun_induction evict config frames bytes with
  | case1 dropped next rest bytes _ ih => exact ih.trans (List.suffix_cons dropped (next :: rest))
  | case2 => exact List.suffix_rfl
  | case3 => exact List.suffix_rfl

theorem evict_ne_nil (config : ReplayBufferConfig) {frames : List OutputFrame} {bytes : Nat}
    (h : frames ≠ []) : (evict config frames bytes).1 ≠ [] := by
  fun_induction evict config frames bytes with
  | case1 _ _ _ _ _ ih => exact ih (by simp)
  | case2 => simp
  | case3 => exact h

@[simp] theorem push_latestSeq (b : ReplayBuffer) (frame : OutputFrame) : (b.push frame).latestSeq = frame.seq := rfl

theorem push_frames_suffix (b : ReplayBuffer) (frame : OutputFrame) : (b.push frame).frames <:+ b.frames ++ [frame] :=
  evict_suffix _ _ _

theorem ReplayBuffer.Contiguous.push {b : ReplayBuffer} (hb : b.Contiguous) {frame : OutputFrame}
    (hseq : frame.seq = b.latestSeq + 1) : (b.push frame).Contiguous := by
  have hfits := hb.fits
  have hall : Numbered OutputFrame.seq (b.latestSeq + 1 - b.frames.length) (b.frames ++ [frame]) :=
    hb.numbered.concat (by omega)
  obtain ⟨gone, hgone⟩ := push_frames_suffix b frame
  have hlen : gone.length + (b.push frame).frames.length = b.frames.length + 1 := by
    rw [← List.length_append, hgone, List.length_append, List.length_singleton]
  have hne : (b.push frame).frames ≠ [] := evict_ne_nil _ (by simp)
  have hpos : 0 < (b.push frame).frames.length := List.length_pos_iff.2 hne
  rw [← hgone] at hall
  refine ⟨?_, ?_, fun h => absurd h hne⟩
  · have hkept := (numbered_append.1 hall).2
    rw [push_latestSeq, hseq, show b.latestSeq + 1 + 1 - (b.push frame).frames.length =
      b.latestSeq + 1 - b.frames.length + gone.length by omega]
    exact hkept
  · rw [push_latestSeq, hseq]
    omega

/-! ## What a bookmark is answered with -/

variable {b : ReplayBuffer} {bookmark : Nat}

/-- A range answers a bookmark with every frame after it, in order, and with
nothing else. -/
theorem replaySince_ok (hb : b.Contiguous) (hpos : 0 < bookmark) {range : ReplayRange}
    (h : b.replaySince (some bookmark) = .ok range) :
    range.latestSeq = b.latestSeq ∧ (∀ f ∈ range.frames, f ∈ b.frames) ∧
      Numbered OutputFrame.seq (bookmark + 1) range.frames ∧
      ∀ q, q ∈ range.frames.map OutputFrame.seq ↔ bookmark < q ∧ q ≤ b.latestSeq := by
  have hnum := hb.numbered
  have hfits := hb.fits
  unfold ReplayBuffer.replaySince at h
  simp only [Option.getD_some] at h
  split at h
  · -- nothing was pushed yet
    next hhead =>
    obtain rfl := Except.ok.inj h
    have hzero := hb.kept (List.head?_eq_none_iff.1 hhead)
    refine ⟨rfl, by simp, trivial, fun q => ?_⟩
    simp only [List.map_nil, List.not_mem_nil, false_iff]
    omega
  · next oldest hhead =>
    split at h
    · -- the caller is current or ahead
      next hcurrent =>
      obtain rfl := Except.ok.inj h
      refine ⟨rfl, by simp, trivial, fun q => ?_⟩
      simp only [List.map_nil, List.not_mem_nil, false_iff]
      omega
    · split at h
      · simp at h
      · next hcurrent hkept =>
        obtain rfl := Except.ok.inj h
        have holdest : oldest.seq = b.latestSeq + 1 - b.frames.length := by
          rw [List.head?_eq_getElem?] at hhead
          have := hnum.num_getElem? hhead
          omega
        refine ⟨rfl, fun f hf => List.mem_of_mem_filter hf, hnum.filter_after (by omega), fun q => ?_⟩
        have hmem : q ∈ (b.frames.filter (bookmark < ·.seq)).map OutputFrame.seq ↔
            q ∈ b.frames.map OutputFrame.seq ∧ bookmark < q := by
          simp only [List.mem_map, List.mem_filter, decide_eq_true_eq]
          constructor
          · rintro ⟨f, ⟨hf, hlt⟩, rfl⟩
            exact ⟨⟨f, hf, rfl⟩, hlt⟩
          · rintro ⟨⟨f, hf, rfl⟩, hlt⟩
            exact ⟨f, ⟨hf, hlt⟩, rfl⟩
        rw [hmem, hnum.mem_map]
        omega

/-- Frames come back only for a bookmark that is behind and still in the window. -/
theorem replaySince_nonempty (hpos : 0 < bookmark) {range : ReplayRange}
    (h : b.replaySince (some bookmark) = .ok range) (hne : range.frames ≠ []) :
    bookmark < b.latestSeq ∧ ∀ oldest ∈ b.frames.head?, oldest.seq ≤ bookmark + 1 := by
  unfold ReplayBuffer.replaySince at h
  simp only [Option.getD_some] at h
  split at h
  · obtain rfl := Except.ok.inj h
    simp at hne
  · next oldest hhead =>
    split at h
    · obtain rfl := Except.ok.inj h
      simp at hne
    · split at h
      · simp at h
      · next hcurrent hkept =>
        refine ⟨Nat.not_le.1 hcurrent, fun o ho => ?_⟩
        obtain rfl : oldest = o := Option.some.inj (hhead.symm.trans ho)
        omega

/-- A lost window names the bookmark and the latest sequence number. -/
theorem replaySince_lost {lost : ReplayWindowLost} (h : b.replaySince (some bookmark) = .error lost) :
    lost.requested = bookmark ∧ lost.latest = b.latestSeq := by
  unfold ReplayBuffer.replaySince at h
  simp only [Option.getD_some] at h
  split at h
  · simp at h
  · split at h
    · simp at h
    · split at h
      · obtain rfl := Except.error.inj h
        exact ⟨rfl, rfl⟩
      · simp at h

end RelayTerm.Stream
