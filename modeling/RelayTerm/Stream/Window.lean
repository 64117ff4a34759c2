import RelayTerm.Lib.Window
import RelayTerm.Stream.Replay
/-!
# The window of the replay ring

Whatever the two bounds are, the ring holds the longest stretch of the latest
output that fits them, and the latest frame if none does (`ring_window`). From
that stretch a bookmark is answered with exactly the frames behind it, or with
the news that the first of them is gone (`replay_exact`).
-/
open RelayTerm.Lib

namespace RelayTerm.Stream

variable {config : ReplayBufferConfig} {frames history : List OutputFrame} {b : ReplayBuffer} {q : Nat}

def totalBytes : List OutputFrame → Nat
  | [] => 0
  | f :: rest => f.data.length + totalBytes rest

/-- Both bounds hold. -/
def Fits (config : ReplayBufferConfig) (frames : List OutputFrame) : Prop :=
  frames.length ≤ config.maxFrames ∧ totalBytes frames ≤ config.maxBytes

instance (config : ReplayBufferConfig) : DecidablePred (Fits config) :=
  fun frames => inferInstanceAs (Decidable (frames.length ≤ config.maxFrames ∧ totalBytes frames ≤ config.maxBytes))

def ReplayBuffer.pushAll (b : ReplayBuffer) (frames : List OutputFrame) : ReplayBuffer :=
  frames.foldl ReplayBuffer.push b

theorem pushAll_concat (b : ReplayBuffer) (frames : List OutputFrame) (f : OutputFrame) :
    b.pushAll (frames ++ [f]) = (b.pushAll frames).push f := by
  simp [ReplayBuffer.pushAll]

theorem pushAll_config (b : ReplayBuffer) (frames : List OutputFrame) : (b.pushAll frames).config = b.config := by
  induction frames using List.reverseRecOn with
  | nil => rfl
  | append_singleton frames f ih =>
    rw [pushAll_concat]
    exact ih

theorem pushAll_latestSeq (b : ReplayBuffer) (frames : List OutputFrame) (f : OutputFrame) :
    (b.pushAll (frames ++ [f])).latestSeq = f.seq := by
  rw [pushAll_concat, push_latestSeq]

/-! ## Which frames are kept -/

theorem totalBytes_append (xs ys : List OutputFrame) : totalBytes (xs ++ ys) = totalBytes xs + totalBytes ys := by
  induction xs with
  | nil => exact (Nat.zero_add _).symm
  | cons f xs ih =>
    rw [List.cons_append, totalBytes, totalBytes, ih]
    omega

theorem totalBytes_sublist {xs ys : List OutputFrame} (h : xs.Sublist ys) : totalBytes xs ≤ totalBytes ys := by
  induction h with
  | slnil => exact Nat.le_refl 0
  | cons f _ ih =>
    rw [totalBytes]
    omega
  | cons_cons f _ ih =>
    rw [totalBytes, totalBytes]
    omega

theorem Fits.sublist {xs ys : List OutputFrame} (h : xs.Sublist ys) (hys : Fits config ys) : Fits config xs :=
  ⟨h.length_le.trans hys.1, (totalBytes_sublist h).trans hys.2⟩

/-- With an exact counter the loop of `push` trims to the bounds, and the counter stays exact. -/
theorem evict_eq (config : ReplayBufferConfig) (frames : List OutputFrame) :
    evict config frames (totalBytes frames) =
      (trim (Fits config) frames, totalBytes (trim (Fits config) frames)) := by
  fun_induction trim (Fits config) frames with
  | case1 dropped next rest hfits =>
    rw [evict, if_neg]
    have := hfits.1
    have := hfits.2
    omega
  | case2 dropped next rest hfits ih =>
    rw [evict, if_pos, totalBytes, Nat.add_sub_cancel_left]
    · exact ih
    · rw [Fits] at hfits
      omega
  | case3 frames hshort =>
    rcases frames with _ | ⟨f, _ | ⟨g, rest⟩⟩
    · rfl
    · rfl
    · exact absurd rfl (hshort f g rest)

/-- As long as the counter does not saturate. -/
theorem push_eq (hexact : b.bytes = totalBytes b.frames) (f : OutputFrame)
    (hroom : totalBytes b.frames + f.data.length ≤ usizeMax) :
    (b.push f).frames = trim (Fits b.config) (b.frames ++ [f]) ∧ (b.push f).bytes = totalBytes (b.push f).frames := by
  have hbytes : min (b.bytes + f.data.length) usizeMax = totalBytes (b.frames ++ [f]) := by
    rw [hexact, totalBytes_append, totalBytes, totalBytes, Nat.add_zero]
    exact Nat.min_eq_left hroom
  simp only [ReplayBuffer.push, hbytes, evict_eq, and_self]

theorem pushAll_suffix (config : ReplayBufferConfig) (history : List OutputFrame) :
    ((ReplayBuffer.new config).pushAll history).frames <:+ history := by
  induction history using List.reverseRecOn with
  | nil => exact List.suffix_rfl
  | append_singleton history f ih =>
    rw [pushAll_concat]
    obtain ⟨gone, hgone⟩ := ih
    apply (push_frames_suffix _ f).trans
    exact ⟨gone, by rw [← List.append_assoc, hgone]⟩

theorem pushAll_window (config : ReplayBufferConfig) (hbytes : totalBytes history ≤ usizeMax) :
    (history ≠ [] → BestWindow (Fits config) history ((ReplayBuffer.new config).pushAll history).frames) ∧
      ((ReplayBuffer.new config).pushAll history).bytes =
        totalBytes ((ReplayBuffer.new config).pushAll history).frames := by
  induction history using List.reverseRecOn with
  | nil => exact ⟨fun h => absurd rfl h, rfl⟩
  | append_singleton history f ih =>
    rw [totalBytes_append, totalBytes, totalBytes] at hbytes
    obtain ⟨hwindow, hexact⟩ := ih (by omega)
    have hkept := totalBytes_sublist (pushAll_suffix config history).sublist
    obtain ⟨hframes, hcounter⟩ := push_eq hexact f (by omega)
    rw [pushAll_concat]
    refine ⟨fun _ => ?_, hcounter⟩
    rw [hframes, pushAll_config]
    by_cases hnil : history = []
    · subst hnil
      exact .first f
    · exact (hwindow hnil).push (fun _ _ => Fits.sublist) f

/-- The ring keeps the best possible window of everything pushed. -/
theorem ring_window (config : ReplayBufferConfig) (history : List OutputFrame)
    (hbytes : totalBytes history ≤ usizeMax) :
    let ring := (ReplayBuffer.new config).pushAll history
    (history ≠ [] → BestWindow (Fits config) history ring.frames) ∧ ring.bytes = totalBytes ring.frames ∧
      ∀ last, history.getLast? = some last → ring.latestSeq = last.seq := by
  intro ring
  obtain ⟨hwindow, hexact⟩ := pushAll_window config hbytes
  refine ⟨hwindow, hexact, ?_⟩
  intro last hlast
  obtain ⟨front, rfl⟩ := List.getLast?_eq_some_iff.1 hlast
  exact pushAll_latestSeq _ front last

/-- Three frames of two, three and one bytes. -/
def threeFrames : List OutputFrame := [⟨1, [104, 105]⟩, ⟨2, [33, 33, 33]⟩, ⟨3, [10]⟩]

/-- Room for four bytes keeps two frames; no room at all keeps the last one. -/
theorem ring_window_three :
    (BestWindow (Fits ⟨9, 4⟩) threeFrames [⟨2, [33, 33, 33]⟩, ⟨3, [10]⟩] ∧
      ((ReplayBuffer.new ⟨9, 4⟩).pushAll threeFrames).bytes = 4) ∧
    BestWindow (Fits ⟨0, 0⟩) threeFrames [⟨3, [10]⟩] := by
  obtain ⟨hbest, hbytes, -⟩ := ring_window ⟨9, 4⟩ threeFrames (by decide)
  obtain ⟨hnone, -, -⟩ := ring_window ⟨0, 0⟩ threeFrames (by decide)
  exact ⟨⟨hbest (by decide), hbytes⟩, hnone (by decide)⟩

/-! ## What a bookmark is answered with -/

/-- `u64` addition; nothing is the panic of an overflow. -/
def checkedAdd (m n : Nat) : Option Nat := if m + n ≤ usizeMax then some (m + n) else none

/-- `replay_since` with its one addition checked. -/
def ReplayBuffer.replaySinceChecked (b : ReplayBuffer) (lastSeenSeq : Option Nat) :
    Option (Except ReplayWindowLost ReplayRange) :=
  let bookmark := lastSeenSeq.getD 0
  match b.frames.head? with
  | none => some (.ok ⟨[], b.latestSeq⟩)
  | some oldest =>
    if bookmark ≥ b.latestSeq then some (.ok ⟨[], b.latestSeq⟩)
    -- The sum is computed for a positive bookmark only.
    else if bookmark > 0 then (checkedAdd bookmark 1).map fun next =>
      if next < oldest.seq then .error ⟨bookmark, some oldest.seq, b.latestSeq⟩
      else .ok ⟨b.frames.filter (bookmark < ·.seq), b.latestSeq⟩
    else some (.ok ⟨b.frames.filter (bookmark < ·.seq), b.latestSeq⟩)

theorem replaySinceChecked_eq (hlatest : b.latestSeq ≤ usizeMax) (lastSeenSeq : Option Nat) :
    b.replaySinceChecked lastSeenSeq = some (b.replaySince lastSeenSeq) := by
  simp only [ReplayBuffer.replaySinceChecked, ReplayBuffer.replaySince]
  cases b.frames.head? with
  | none => rfl
  | some oldest =>
    by_cases hcurrent : lastSeenSeq.getD 0 ≥ b.latestSeq
    · simp only [hcurrent, if_true]
    · by_cases hpos : lastSeenSeq.getD 0 > 0
      · rw [checkedAdd, if_pos (show lastSeenSeq.getD 0 + 1 ≤ usizeMax by omega)]
        simp only [hcurrent, hpos, if_false, if_true, true_and, Option.map_some]
      · simp only [hcurrent, hpos, if_false, false_and]

theorem pushAll_contiguous (config : ReplayBufferConfig) (h : Numbered OutputFrame.seq 1 history) :
    ((ReplayBuffer.new config).pushAll history).Contiguous ∧
      ((ReplayBuffer.new config).pushAll history).latestSeq = history.length := by
  induction history using List.reverseRecOn with
  | nil => exact ⟨new_contiguous config, rfl⟩
  | append_singleton history f ih =>
    obtain ⟨hfront, hf, -⟩ := numbered_append.1 h
    obtain ⟨hcontiguous, hlatest⟩ := ih hfront
    rw [pushAll_concat]
    constructor
    · apply hcontiguous.push
      rw [hlatest, hf, Nat.add_comm]
    · rw [push_latestSeq, hf, List.length_append, List.length_singleton, Nat.add_comm]

/-- Of a numbered stretch, the frames after number `q` are those behind the first `q`. -/
theorem filter_after_eq_drop (h : Numbered OutputFrame.seq 1 history) (q : Nat) :
    history.filter (q < ·.seq) = history.drop q := by
  conv_lhs => rw [← List.take_append_drop q history]
  rw [← List.take_append_drop q history] at h
  obtain ⟨htake, hdrop⟩ := numbered_append.1 h
  rw [List.filter_append, List.filter_eq_nil_iff.2, List.filter_eq_self.2, List.nil_append]
  · intro f hf
    have hlt : f ∈ history.drop q → q < history.length := by
      intro hmem
      have := List.length_pos_of_mem hmem
      rw [List.length_drop] at this
      omega
    have := (hdrop.bounds hf).1
    have := hlt hf
    rw [List.length_take] at *
    simp only [decide_eq_true_eq]
    omega
  · intro f hf
    have := (htake.bounds hf).2
    rw [List.length_take] at this
    simp only [decide_eq_true_eq]
    omega

/-- The frame after the bookmark is kept exactly if the window starts there or before. -/
theorem Contiguous.kept_iff (hb : b.Contiguous) {oldest : OutputFrame} (hhead : b.frames.head? = some oldest)
    (hq : q < b.latestSeq) : (∃ f ∈ b.frames, f.seq = q + 1) ↔ ¬ q + 1 < oldest.seq := by
  have hfits := hb.fits
  have holdest : oldest.seq = b.latestSeq + 1 - b.frames.length := by
    rw [List.head?_eq_getElem?] at hhead
    have := hb.numbered.num_getElem? hhead
    omega
  rw [← List.mem_map, hb.numbered.mem_map]
  omega

theorem drop_of_kept (hb : b.Contiguous) (hlatest : b.latestSeq = history.length) (hsuffix : b.frames <:+ history)
    (hnum : Numbered OutputFrame.seq 1 history) (hkept : ∃ f ∈ b.frames, f.seq = q + 1) :
    b.frames.filter (q < ·.seq) = history.drop q := by
  rw [← filter_after_eq_drop hnum q]
  obtain ⟨gone, rfl⟩ := hsuffix
  obtain ⟨f, hf, hseq⟩ := hkept
  have hfirst := (hb.numbered.bounds hf).1
  rw [hlatest, List.length_append] at hfirst
  have hgone : gone.filter (q < ·.seq) = [] := by
    apply List.filter_eq_nil_iff.2
    intro g hg
    have := ((numbered_append.1 hnum).1.bounds hg).2
    simp only [decide_eq_true_eq]
    omega
  rw [List.filter_append, hgone, List.nil_append]

theorem filter_positive (hb : b.Contiguous) : b.frames.filter (0 < ·.seq) = b.frames := by
  apply List.filter_eq_self.2
  intro f hf
  have := (hb.numbered.bounds hf).1
  have := hb.fits
  simp only [decide_eq_true_eq]
  omega

theorem replaySince_eq (hb : b.Contiguous) (hlatest : b.latestSeq = history.length) (hsuffix : b.frames <:+ history)
    (hnum : Numbered OutputFrame.seq 1 history) (hkeeps : b.frames ≠ []) (lastSeenSeq : Option Nat) :
    b.replaySince lastSeenSeq =
      if history.length ≤ lastSeenSeq.getD 0 then .ok ⟨[], history.length⟩
      else if lastSeenSeq.getD 0 = 0 then .ok ⟨b.frames, history.length⟩
      else if ∃ f ∈ b.frames, f.seq = lastSeenSeq.getD 0 + 1 then
        .ok ⟨history.drop (lastSeenSeq.getD 0), history.length⟩
      else .error ⟨lastSeenSeq.getD 0, b.frames.head?.map OutputFrame.seq, history.length⟩ := by
  obtain ⟨oldest, hhead⟩ : ∃ oldest, b.frames.head? = some oldest := by
    rw [← Option.isSome_iff_exists, List.isSome_head?]
    exact hkeeps
  simp only [ReplayBuffer.replaySince, hhead, hlatest]
  generalize lastSeenSeq.getD 0 = bookmark
  by_cases hcurrent : history.length ≤ bookmark
  · rw [if_pos hcurrent, if_pos hcurrent]
  · rw [if_neg hcurrent, if_neg hcurrent]
    by_cases hzero : bookmark = 0
    · rw [if_pos hzero, if_neg (by omega), hzero, filter_positive hb]
    · rw [if_neg hzero]
      have hkept := Contiguous.kept_iff hb hhead (hlatest ▸ Nat.not_le.1 hcurrent)
      by_cases hgone : bookmark + 1 < oldest.seq
      · rw [if_pos ⟨Nat.pos_of_ne_zero hzero, hgone⟩, if_neg (fun h => hkept.1 h hgone)]
        rfl
      · rw [if_neg (fun h => hgone h.2), if_pos (hkept.2 hgone)]
        rw [drop_of_kept hb hlatest hsuffix hnum (hkept.2 hgone)]

/-- After the frames `1, ..., n` a bookmark is answered exactly, without an overflow. -/
theorem replay_exact (config : ReplayBufferConfig) (history : List OutputFrame) (hne : history ≠ [])
    (hnum : Numbered OutputFrame.seq 1 history) (hn : history.length ≤ usizeMax) (lastSeenSeq : Option UInt64) :
    let ring := (ReplayBuffer.new config).pushAll history
    let n := history.length
    let bookmark := (lastSeenSeq.map UInt64.toNat).getD 0
    ring.replaySinceChecked (lastSeenSeq.map UInt64.toNat) = some
      (if n ≤ bookmark then .ok ⟨[], n⟩
      else if bookmark = 0 then .ok ⟨ring.frames, n⟩
      else if ∃ f ∈ ring.frames, f.seq = bookmark + 1 then .ok ⟨history.drop bookmark, n⟩
      else .error ⟨bookmark, ring.frames.head?.map OutputFrame.seq, n⟩) ∧ ring.frames ≠ [] := by
  intro ring n bookmark
  obtain ⟨hb, hlatest⟩ : ring.Contiguous ∧ ring.latestSeq = n := pushAll_contiguous config hnum
  have hkeeps : ring.frames ≠ [] := by
    intro hnil
    have hzero := hb.kept hnil
    exact hne (List.eq_nil_of_length_eq_zero (hlatest.symm.trans hzero))
  refine ⟨?_, hkeeps⟩
  rw [replaySinceChecked_eq (hlatest ▸ hn)]
  exact congrArg some (replaySince_eq hb hlatest (pushAll_suffix config history) hnum hkeeps _)

/-- Bookmark 1 is answered from a window that starts at frame 2, and lost where only the last frame is kept. -/
theorem replay_exact_three :
    ((ReplayBuffer.new ⟨9, 4⟩).pushAll threeFrames).replaySinceChecked (some 1) =
      some (.ok ⟨[⟨2, [33, 33, 33]⟩, ⟨3, [10]⟩], 3⟩) ∧
    ((ReplayBuffer.new ⟨1, 4⟩).pushAll threeFrames).replaySinceChecked (some 1) = some (.error ⟨1, some 3, 3⟩) := by
  have hnum : Numbered OutputFrame.seq 1 threeFrames := by simp [threeFrames]
  have hanswer := (replay_exact ⟨9, 4⟩ threeFrames (by decide) hnum (by decide) (some 1)).1
  have hlost := (replay_exact ⟨1, 4⟩ threeFrames (by decide) hnum (by decide) (some 1)).1
  exact ⟨hanswer, hlost⟩

end RelayTerm.Stream
