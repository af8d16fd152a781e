import AccessSecurity.Crypto.Aead
import AccessSecurity.Foundation.ExtractExpand

/-!
# HKDF outputs of any length

The loop of `derive` keeps the last block and the beginning of the stream of blocks
(`Expanded`), and what it leaves behind does not change a later call (`Complete`). So the
object refines extract-and-expand for every length it does not refuse (`derives_expand`).
-/

namespace AccessSecurity.Crypto.Hkdf

open Foundation

section

variable [Sodium]

/-- The results of several calls of `derive` on one object. -/
def derives (h : Hkdf) : ℕ → Except Exn (List Bytes)
  | 0 => return []
  | calls + 1 => do
    let (okm, h) ← h.derive
    return okm :: (← h.derives calls)

/-- The key of RFC 5869. -/
def rfcKey (ikm salt info : Bytes) (len : ℕ) : Bytes :=
  ExtractExpand.expand hmacSha256 (ExtractExpand.extract hmacSha256 salt ikm).toList info len

theorem extract_eq (salt ikm : Bytes) :
    extract salt ikm = ExtractExpand.extract hmacSha256 salt ikm := by
  unfold extract ExtractExpand.extract
  cases salt with
  | nil => rfl
  | cons b bs => rfl

/-! ## The loop -/

/-- The object after the first `n` blocks. -/
structure Expanded (ikm salt info : Bytes) (outputLen : UInt64) (n : ℕ) (h : Hkdf) : Prop where
  info_eq : h.info = info
  outputLen_eq : h.outputLen = outputLen
  prk_eq : h.prk = ExtractExpand.extract hmacSha256 salt ikm
  prevBlock_eq : h.prevBlock = ExtractExpand.block hmacSha256 h.prk.toList info n
  okm_eq : h.okm = (ExtractExpand.blocks hmacSha256 h.prk.toList info n).take outputLen.toNat

variable {ikm salt info : Bytes} {outputLen : UInt64} {n : ℕ} {h : Hkdf}

theorem expanded_new (ikm salt info : Bytes) (outputLen : UInt64) :
    Expanded ikm salt info outputLen 0 (new ikm salt info outputLen) where
  info_eq := rfl
  outputLen_eq := rfl
  prk_eq := extract_eq salt ikm
  prevBlock_eq := rfl
  okm_eq := by simp [new, ExtractExpand.blocks]

omit [Sodium] in
/-- As much of a block as is still missing. -/
theorem take_missing {block : Bytes} (hblock : block.length = 32) {done : ℕ}
    (hdone : done ≤ outputLen.toNat) :
    block.take (if 32 < outputLen - UInt64.ofNat done then 32
      else outputLen - UInt64.ofNat done).toNat = block.take (outputLen.toNat - done) := by
  have hlt := outputLen.toNat_lt
  have hthirtyTwo : (32 : UInt64).toNat = 32 := rfl
  have hdone' : (UInt64.ofNat done).toNat = done :=
    UInt64.toNat_ofNat_of_lt' (hdone.trans_lt hlt)
  have hmissing : (outputLen - UInt64.ofNat done).toNat = outputLen.toNat - done := by
    rw [UInt64.toNat_sub_of_le, hdone']
    rw [UInt64.le_iff_toNat_le, hdone']
    exact hdone
  split_ifs with hmore
  · rw [UInt64.lt_iff_toNat_lt, hmissing, hthirtyTwo] at hmore
    rw [hthirtyTwo, List.take_of_length_le hblock.le,
      List.take_of_length_le (hblock.trans_le hmore.le)]
  · rw [hmissing]

theorem Expanded.expandBlock (hexp : Expanded ikm salt info outputLen n h) :
    Expanded ikm salt info outputLen (n + 1) (h.expandBlock (n + 1)) := by
  have hblock : hmacSha256 h.prk.toList (h.prevBlock ++ h.info ++ [UInt8.ofNat (n + 1)]) =
      hmacSha256 h.prk.toList (ExtractExpand.block hmacSha256 h.prk.toList info n ++ info ++
        [UInt8.ofNat (n + 1)]) := by
    rw [hexp.prevBlock_eq, hexp.info_eq]
  have hlen : h.okm.length = min outputLen.toNat (32 * n) := by simp [hexp.okm_eq]
  constructor
  · exact hexp.info_eq
  · exact hexp.outputLen_eq
  · exact hexp.prk_eq
  · exact congrArg Vector.toList hblock
  · have hdone : outputLen.toNat - h.okm.length = outputLen.toNat - 32 * n := by omega
    have htake := take_missing (ExtractExpand.length_block_succ hmacSha256 h.prk.toList info n)
      (hlen.trans_le (Nat.min_le_left _ _))
    rw [hdone] at htake
    rw [Hkdf.expandBlock, finalizeAndAppend, hexp.outputLen_eq, hblock]
    dsimp only
    rw [ExtractExpand.take_blocks_succ, ← htake, ← hexp.okm_eq]
    rfl

theorem expanded_loop (ikm salt info : Bytes) (outputLen : UInt64) (n : ℕ) :
    Expanded ikm salt info outputLen n
      ((List.range n).foldl (fun h i => h.expandBlock (i + 1)) (new ikm salt info outputLen)) := by
  induction n with
  | zero => exact expanded_new ikm salt info outputLen
  | succ n ih =>
    rw [List.range_succ, List.foldl_append]
    exact ih.expandBlock

/-! ## Further calls -/

/-- The output has its length: nothing is missing. -/
def Complete (outputLen : UInt64) (okm : Bytes) (h : Hkdf) : Prop :=
  h.outputLen = outputLen ∧ h.okm = okm ∧ okm.length = outputLen.toNat

theorem Complete.expandBlock {okm : Bytes} (hdone : Complete outputLen okm h) (i : ℕ) :
    Complete outputLen okm (h.expandBlock i) := by
  obtain ⟨houtput, hokm, hlen⟩ := hdone
  have hmissing : outputLen - UInt64.ofNat okm.length = 0 := by simp [hlen]
  refine ⟨houtput, ?_, hlen⟩
  rw [Hkdf.expandBlock, finalizeAndAppend, houtput, hokm, hmissing]
  simp

theorem Complete.loop {okm : Bytes} (hdone : Complete outputLen okm h) (is : List ℕ) :
    Complete outputLen okm (is.foldl (fun h i => h.expandBlock (i + 1)) h) := by
  induction is generalizing h with
  | nil => exact hdone
  | cons i is ih => exact ih (hdone.expandBlock (i + 1))

/-! ## Calls of derive -/

omit [Sodium] in
theorem toNat_computeBlockCount (hcount : h.outputLen.toNat + 31 < 2 ^ 64) :
    h.computeBlockCount.toNat = (h.outputLen.toNat + 31) / 32 := by
  have hsum : h.outputLen + 32 - 1 = h.outputLen + 31 := by grind
  have hadd : (h.outputLen + 31).toNat = h.outputLen.toNat + 31 := by
    rw [UInt64.toNat_add]
    exact Nat.mod_eq_of_lt hcount
  rw [computeBlockCount, hsum, UInt64.toNat_div, hadd]
  rfl

omit [Sodium] in
/-- The block count is above 255 exactly when the output does not fit into 255 blocks. -/
theorem lt_computeBlockCount_iff (hcount : h.outputLen.toNat + 31 < 2 ^ 64) :
    255 < h.computeBlockCount ↔ 255 * 32 < h.outputLen.toNat := by
  have hblocks := toNat_computeBlockCount hcount
  have hmax : (255 : UInt64).toNat = 255 := rfl
  rw [UInt64.lt_iff_toNat_lt, hmax, hblocks]
  omega

theorem derive_too_large (hcount : h.outputLen.toNat + 31 < 2 ^ 64)
    (hlarge : 255 * 32 < h.outputLen.toNat) :
    h.derive = .error ⟨"Hkdf: outputLen too large"⟩ := by
  have hblocks := (lt_computeBlockCount_iff hcount).mpr hlarge
  rw [derive]
  exact if_pos hblocks

theorem derive_ok (hcount : h.outputLen.toNat + 31 < 2 ^ 64)
    (hfits : h.outputLen.toNat ≤ 255 * 32) :
    h.derive = .ok (((List.range ((h.outputLen.toNat + 31) / 32)).foldl
        (fun h i => h.expandBlock (i + 1)) h).okm,
      (List.range ((h.outputLen.toNat + 31) / 32)).foldl (fun h i => h.expandBlock (i + 1)) h) := by
  have hblocks := mt (lt_computeBlockCount_iff hcount).mp (not_lt.mpr hfits)
  rw [derive, ← toNat_computeBlockCount hcount]
  exact if_neg hblocks

theorem Complete.derive {okm : Bytes} (hdone : Complete outputLen okm h)
    (hfits : outputLen.toNat ≤ 255 * 32) :
    ∃ h', h.derive = .ok (okm, h') ∧ Complete outputLen okm h' := by
  have hloop := hdone.loop (List.range ((outputLen.toNat + 31) / 32))
  obtain ⟨rfl, hokm, -⟩ := id hdone
  rw [derive_ok (by omega) hfits, hloop.2.1]
  exact ⟨_, rfl, hloop⟩

theorem Complete.derives {okm : Bytes} (hdone : Complete outputLen okm h)
    (hfits : outputLen.toNat ≤ 255 * 32) (calls : ℕ) :
    h.derives calls = .ok (List.replicate calls okm) := by
  induction calls generalizing h with
  | zero => rfl
  | succ calls ih =>
    obtain ⟨h', hderive, hdone'⟩ := hdone.derive hfits
    rw [Hkdf.derives, hderive]
    change (h'.derives calls >>= fun okms => pure (okm :: okms)) = _
    rw [ih hdone']
    rfl

/-- The first call produces the key of RFC 5869 and leaves the object complete. -/
theorem derive_new (ikm salt info : Bytes) {outputLen : UInt64}
    (hfits : outputLen.toNat ≤ 255 * 32) :
    ∃ h, (new ikm salt info outputLen).derive = .ok (rfcKey ikm salt info outputLen.toNat, h) ∧
      Complete outputLen (rfcKey ikm salt info outputLen.toNat) h := by
  have hloop := expanded_loop ikm salt info outputLen ((outputLen.toNat + 31) / 32)
  have hokm : rfcKey ikm salt info outputLen.toNat = _ := (hloop.prk_eq ▸ hloop.okm_eq).symm
  have hlen : (rfcKey ikm salt info outputLen.toNat).length = outputLen.toNat :=
    ExtractExpand.length_expand _ _ _ (by decide) _
  have hderive := derive_ok (h := new ikm salt info outputLen)
    (by change outputLen.toNat + 31 < 2 ^ 64; omega) hfits
  refine ⟨_, hderive.trans ?_, hloop.outputLen_eq, hokm.symm, hlen⟩
  rw [hokm]
  rfl

/-- `Hkdf` refines RFC 5869: it refuses exactly the outputs that do not fit into 255 blocks,
and otherwise every call on one object returns the key of the requested length. So the output
of a shorter length is a prefix of that of a longer one. -/
theorem derives_expand (ikm salt info : Bytes) (outputLen : UInt64)
    (hcount : outputLen.toNat + 31 < 2 ^ 64) :
    (255 * 32 < outputLen.toNat →
      (new ikm salt info outputLen).derive = .error ⟨"Hkdf: outputLen too large"⟩) ∧
    (outputLen.toNat ≤ 255 * 32 → ∀ calls, (new ikm salt info outputLen).derives calls =
      .ok (List.replicate calls (rfcKey ikm salt info outputLen.toNat))) ∧
    ∀ shorter ≤ outputLen, ∀ okm okm' h h',
      (new ikm salt info outputLen).derive = .ok (okm, h) →
      (new ikm salt info shorter).derive = .ok (okm', h') → okm' <+: okm := by
  refine ⟨derive_too_large (h := new ikm salt info outputLen) hcount, ?_, ?_⟩
  · rintro hfits (_ | calls)
    · rfl
    · obtain ⟨h, hderive, hdone⟩ := derive_new ikm salt info hfits
      rw [derives, hderive]
      change (h.derives calls >>= fun okms => pure (_ :: okms)) = _
      rw [hdone.derives hfits calls]
      rfl
  · intro shorter hle okm okm' h h' hlonger hshorter
    rw [UInt64.le_iff_toNat_le] at hle
    have hfits : outputLen.toNat ≤ 255 * 32 := by
      by_contra hlarge
      have herror := derive_too_large (h := new ikm salt info outputLen) hcount (not_le.mp hlarge)
      cases hlonger.symm.trans herror
    obtain ⟨_, hderive, -⟩ := derive_new ikm salt info hfits
    obtain ⟨_, hderive', -⟩ := derive_new ikm salt info (hle.trans hfits)
    obtain ⟨rfl, rfl⟩ := Prod.mk.inj (Except.ok.inj (hlonger.symm.trans hderive))
    obtain ⟨rfl, rfl⟩ := Prod.mk.inj (Except.ok.inj (hshorter.symm.trans hderive'))
    exact ExtractExpand.expand_prefix _ _ _ (by decide) hle

end

/-- Two calls for 42 bytes, which are a block and the beginning of another one. -/
theorem derives_expand_twice :
    letI : Sodium := .keyed
    (new [1, 2, 3, 4, 5] [9, 8, 7] (bytesOf "ctx") 42).derives 2 =
      .ok (List.replicate 2 (rfcKey [1, 2, 3, 4, 5] [9, 8, 7] (bytesOf "ctx") 42)) := by
  let _ : Sodium := .keyed
  exact (derives_expand [1, 2, 3, 4, 5] [9, 8, 7] (bytesOf "ctx") 42 (by decide)).2.1
    (by decide) 2

end AccessSecurity.Crypto.Hkdf
