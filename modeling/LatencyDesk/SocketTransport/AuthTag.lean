import LatencyDesk.Lib.InPlace
import LatencyDesk.Lib.Word

/-!
# The tag of the datagram handshake

The model of `compute_auth_tag` in `crates/socket-transport/src/lib.rs`.  The
secret, the session and the nonces are put into a block of 32 bytes by exclusive
or, and four rounds mix the block in place.

Two things follow from the way it is computed.  Each step of a round replaces one
byte by an injective function of it, for any values of its neighbours, so that the
rounds lose nothing: from the tag and what is sent in the clear the secret can be
computed back.  And the two nonces enter only as their exclusive or.
`auth_tag_is_invertible` says both.
-/

namespace LatencyDesk.SocketTransport

open Lib List.Vector

/-! ## The function -/

/-- `session_id.to_be_bytes()`. -/
def sessionIdBytes (sessionId : UInt64) : Bytes 8 := ⟨beBytes 8 sessionId.toNat, length_beBytes⟩

/-- `epoch.to_be_bytes()`. -/
def epochBytes (epoch : UInt32) : Bytes 4 := ⟨beBytes 4 epoch.toNat, length_beBytes⟩

/-- `u8::rotate_left(3)`. -/
def rotateLeft3 (byte : UInt8) : UInt8 := byte <<< 3 ||| byte >>> 5

/-- `state[i] ^= byte`. -/
def xorAt (state : Bytes 32) (i : Fin 32) (byte : UInt8) : Bytes 32 :=
  state.set i (state.get i ^^^ byte)

/-- The loop over the session identifier and the epoch. -/
def absorbSession (sessionId : UInt64) (epoch : UInt32) (state : Bytes 32) : Bytes 32 :=
  (List.finRange 8).foldl (fun state (i : Fin 8) =>
    xorAt (xorAt state ⟨i, by omega⟩ ((sessionIdBytes sessionId).get i)) ⟨i + 8, by omega⟩
      ((epochBytes epoch).get ⟨i % 4, by omega⟩)) state

/-- The loop over the nonces. -/
def absorbNonces (clientNonce serverNonce : Bytes 16) (state : Bytes 32) : Bytes 32 :=
  (List.finRange 16).foldl (fun state (i : Fin 16) =>
    xorAt state ⟨i + 16, by omega⟩ (clientNonce.get i ^^^ serverNonce.get i)) state

/-- The byte that a round puts at `i`, in place of the byte that stands there. -/
def mixedByte (r : UInt8) (i : Fin 32) (state : Bytes 32) (byte : UInt8) : UInt8 :=
  let prev := state.get ⟨(i + 31) % 32, by omega⟩
  let next := state.get ⟨(i + 1) % 32, by omega⟩
  rotateLeft3 (byte + (prev ^^^ r)) ^^^ next

def mixRound (r : UInt8) (state : Bytes 32) : Bytes 32 :=
  (List.finRange 32).foldl (fun state i => state.set i (mixedByte r i state (state.get i))) state

def mixRounds (state : Bytes 32) : Bytes 32 :=
  (List.range 4).foldl (fun state round => mixRound (.ofNat round) state) state

def computeAuthTag (secret : Bytes 32) (sessionId : UInt64) (epoch : UInt32)
    (clientNonce serverNonce : Bytes 16) : Bytes 32 :=
  mixRounds (absorbNonces clientNonce serverNonce
    (absorbSession sessionId epoch (secret.map (· ^^^ 0x5C))))

/-! ## The rounds -/

variable (byte : UInt8)

theorem xor_right_injective : Function.Injective (· ^^^ byte : UInt8 → UInt8) := by
  intro a b heq
  have hcancel : ∀ c, c ^^^ byte ^^^ byte = c := fun c => by
    rw [UInt8.xor_assoc, UInt8.xor_self, UInt8.xor_zero]
  rw [← hcancel a, ← hcancel b]
  exact congrArg (· ^^^ byte) heq

theorem rotateLeft3_injective : Function.Injective rotateLeft3 := by
  have hbits : ∀ bits,
      (rotateLeft3 ⟨bits⟩ >>> 3 ||| rotateLeft3 ⟨bits⟩ <<< 5) = ⟨bits⟩ := by
    decide +kernel
  have hinverse : ∀ byte, (rotateLeft3 byte >>> 3 ||| rotateLeft3 byte <<< 5) = byte :=
    fun byte => hbits byte.toBitVec
  intro a b heq
  rw [← hinverse a, ← hinverse b, heq]

variable (r : UInt8) (i : Fin 32) (state : Bytes 32)

/-- Neither neighbour of a byte is the byte itself. -/
theorem mixedByte_set (byte : UInt8) :
    mixedByte r i (state.set i byte) = mixedByte r i state := by
  have hprev : i ≠ ⟨(i + 31) % 32, by omega⟩ := fun heq => by
    have hval := congrArg Fin.val heq
    dsimp only at hval
    omega
  have hnext : i ≠ ⟨(i + 1) % 32, by omega⟩ := fun heq => by
    have hval := congrArg Fin.val heq
    dsimp only at hval
    omega
  unfold mixedByte
  rw [get_set_of_ne hprev, get_set_of_ne hnext]

theorem mixedByte_injective :
    Function.Injective (mixedByte r i state) := by
  intro a b heq
  have hrotated := xor_right_injective _ heq
  have hsum := rotateLeft3_injective hrotated
  exact (UInt8.add_left_inj _).1 hsum

theorem mixRound_injective : Function.Injective (mixRound r) :=
  injective_foldl (fun i => injective_set (mixedByte_set r i) (mixedByte_injective r i)) _

theorem mixRounds_injective : Function.Injective mixRounds :=
  injective_foldl (fun round => mixRound_injective (.ofNat round)) _

/-! ## The block -/

theorem xorAt_injective : Function.Injective (xorAt · i byte) :=
  injective_set (fun _ _ => rfl) (fun _ => xor_right_injective byte)

theorem absorbSession_injective {sessionId : UInt64} {epoch : UInt32} :
    Function.Injective (absorbSession sessionId epoch) :=
  injective_foldl (fun _ => (xorAt_injective _ _).comp (xorAt_injective _ _)) _

theorem absorbNonces_injective {clientNonce serverNonce : Bytes 16} :
    Function.Injective (absorbNonces clientNonce serverNonce) :=
  injective_foldl (fun _ => xorAt_injective _ _) _

theorem map_xor_injective {n : Nat} :
    Function.Injective fun bytes : Bytes n => bytes.map (· ^^^ byte) := by
  intro a b heq
  apply ext
  intro i
  have hget := congrArg (·.get i) heq
  simp only [get_map] at hget
  exact xor_right_injective byte hget

/-- A byte of the upper half has taken in its two bytes of the nonces, and nothing else. -/
theorem get_absorbNonces (clientNonce serverNonce : Bytes 16) (state : Bytes 32) (i : Fin 16) :
    (absorbNonces clientNonce serverNonce state).get ⟨i + 16, by omega⟩ =
      state.get ⟨i + 16, by omega⟩ ^^^ (clientNonce.get i ^^^ serverNonce.get i) := by
  unfold absorbNonces xorAt
  rw [get_foldl_set
    (fun i byte => byte ^^^ (clientNonce.get i ^^^ serverNonce.get i))]
  have hfilter : (List.finRange 16).filter
      (fun other : Fin 16 => decide ((⟨other + 16, by omega⟩ : Fin 32) = ⟨i + 16, by omega⟩)) =
        [i] := by
    revert i
    decide
  rw [hfilter]
  rfl

variable {clientNonce serverNonce clientNonce' serverNonce' : Bytes 16}

/-- The nonces enter as their exclusive or. -/
theorem absorbNonces_eq_iff {state : Bytes 32} :
    absorbNonces clientNonce' serverNonce' state = absorbNonces clientNonce serverNonce state ↔
      ∀ i, clientNonce'.get i ^^^ serverNonce'.get i = clientNonce.get i ^^^ serverNonce.get i := by
  constructor
  · intro heq i
    have hget := congrArg (·.get ⟨i + 16, by omega⟩) heq
    simp only [get_absorbNonces] at hget
    rw [UInt8.xor_comm (state.get _), UInt8.xor_comm (state.get _)] at hget
    exact xor_right_injective _ hget
  · intro heq
    unfold absorbNonces
    simp only [heq]

/-! ## The tag -/

/-- Other nonces with the same exclusive or: both are inverted. -/
theorem exists_nonces :
    ∃ clientNonce' serverNonce', clientNonce' ≠ clientNonce ∧
      serverNonce' ≠ serverNonce ∧
      ∀ i, clientNonce'.get i ^^^ serverNonce'.get i = clientNonce.get i ^^^ serverNonce.get i := by
  have hne : ∀ nonce : Bytes 16, nonce.map (· ^^^ 0xFF) ≠ nonce := by
    intro nonce heq
    have hget := congrArg (·.get 0) heq
    simp only [get_map] at hget
    have hzero := xor_right_injective (nonce.get 0)
      ((UInt8.xor_comm _ _).trans (hget.trans (UInt8.zero_xor).symm))
    exact absurd hzero (by decide)
  refine ⟨clientNonce.map (· ^^^ 0xFF), serverNonce.map (· ^^^ 0xFF), hne _, hne _, fun i => ?_⟩
  rw [get_map, get_map, UInt8.xor_assoc, UInt8.xor_comm (serverNonce.get i),
    ← UInt8.xor_assoc 0xFF, UInt8.xor_self, UInt8.zero_xor]

section

variable {sessionId : UInt64} {epoch : UInt32}

theorem computeAuthTag_eq_iff {secret : Bytes 32} :
    computeAuthTag secret sessionId epoch clientNonce' serverNonce' =
        computeAuthTag secret sessionId epoch clientNonce serverNonce ↔
      ∀ i, clientNonce'.get i ^^^ serverNonce'.get i = clientNonce.get i ^^^ serverNonce.get i :=
  mixRounds_injective.eq_iff.trans absorbNonces_eq_iff

/-- The tag as a function of the secret. -/
theorem computeAuthTag_injective :
    Function.Injective (computeAuthTag · sessionId epoch clientNonce serverNonce) := by
  intro secret secret' heq
  have hblock := mixRounds_injective heq
  have hsess := absorbNonces_injective hblock
  exact map_xor_injective 0x5C (absorbSession_injective hsess)

end

/-- With the same secret, session and epoch two tags are equal exactly when the exclusive ors
of the nonces are, which other nonces always have too.  A tag with its session, epoch and
nonces belongs to one secret only. -/
theorem auth_tag_is_invertible (secret : Bytes 32) (sessionId : UInt64) (epoch : UInt32)
    (clientNonce serverNonce : Bytes 16) :
    (∀ clientNonce' serverNonce',
      computeAuthTag secret sessionId epoch clientNonce' serverNonce' =
          computeAuthTag secret sessionId epoch clientNonce serverNonce ↔
        ∀ i, clientNonce'.get i ^^^ serverNonce'.get i = clientNonce.get i ^^^ serverNonce.get i) ∧
      (∃ clientNonce' serverNonce', clientNonce' ≠ clientNonce ∧ serverNonce' ≠ serverNonce ∧
        computeAuthTag secret sessionId epoch clientNonce' serverNonce' =
          computeAuthTag secret sessionId epoch clientNonce serverNonce) ∧
      ∀ secret', computeAuthTag secret' sessionId epoch clientNonce serverNonce =
        computeAuthTag secret sessionId epoch clientNonce serverNonce → secret' = secret := by
  refine ⟨fun _ _ => computeAuthTag_eq_iff, ?_, fun _ heq => computeAuthTag_injective heq⟩
  obtain ⟨clientNonce', serverNonce', hclient, hserver, hxor⟩ :=
    exists_nonces
  exact ⟨clientNonce', serverNonce', hclient, hserver, computeAuthTag_eq_iff.2 hxor⟩

def sampleNonce (byte : UInt8) : Bytes 16 := List.Vector.replicate 16 byte

/-- A client and a server that swap their nonces get the same tag, and no other secret gives
this tag. -/
theorem swapped_nonces_share_a_tag :
    let secret : Bytes 32 := List.Vector.replicate 32 0x5A
    computeAuthTag secret 42 1 (sampleNonce 0xAA) (sampleNonce 0xBB) =
        computeAuthTag secret 42 1 (sampleNonce 0xBB) (sampleNonce 0xAA) ∧
      sampleNonce 0xAA ≠ sampleNonce 0xBB ∧
      ∀ secret', computeAuthTag secret' 42 1 (sampleNonce 0xAA) (sampleNonce 0xBB) =
        computeAuthTag secret 42 1 (sampleNonce 0xAA) (sampleNonce 0xBB) → secret' = secret :=
  ⟨computeAuthTag_eq_iff.2 fun _ => UInt8.xor_comm _ _, by decide,
    fun _ heq => computeAuthTag_injective heq⟩

end LatencyDesk.SocketTransport
