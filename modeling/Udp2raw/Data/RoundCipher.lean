import Mathlib.Logic.Equiv.Defs

/-!
# Ciphers of alternating layers

A cipher adds a key, then repeats a substitution, a linear mixing and the next key, and
leaves the mixing out of its last round. Undoing the layers one by one would need them in
the opposite order; because the mixing is linear, a cipher of the same shape also works,
with the inverse layers and the round keys reversed and unmixed. Both orders are built here
over an arbitrary type of states.
-/
namespace Udp2raw.RoundCipher

/-- The layers of a cipher over a type of states. -/
structure Layers (State : Type) where
  /-- Adds a round key. -/
  add : State → State → State
  /-- The substitution of a round, permutations of places included. -/
  substitute : Equiv.Perm State
  /-- The linear mixing of a round. -/
  mix : Equiv.Perm State
  /-- Adding a key twice changes nothing. -/
  add_add : ∀ state key, add (add state key) key = state
  /-- Mixing is linear. -/
  mix_add : ∀ state key, mix (add state key) = add (mix state) (mix key)

variable {State : Type} (layers : Layers State)

/-- The full rounds under the keys from one place on. -/
def Layers.rounds (keys : Nat → State) : Nat → State → State
  | 0, state => state
  | count + 1, state =>
    layers.add (layers.mix (layers.substitute (rounds keys count state))) (keys (count + 1))

/-- The cipher with a number of full rounds between its first key and its last round. -/
def Layers.encrypt (count : Nat) (keys : Nat → State) (state : State) : State :=
  let reached := layers.rounds keys count (layers.add state (keys 0))
  layers.add (layers.substitute reached) (keys (count + 1))

/-- Unmixing is linear as well. -/
theorem Layers.unmix_add (state key : State) :
    layers.mix.symm (layers.add state key) =
      layers.add (layers.mix.symm state) (layers.mix.symm key) := by
  apply layers.mix.injective
  rw [layers.mix_add]
  simp only [Equiv.apply_symm_apply]

/-- The cipher with both layers inverted. -/
def Layers.inverse : Layers State where
  add := layers.add
  substitute := layers.substitute.symm
  mix := layers.mix.symm
  add_add := layers.add_add
  mix_add := layers.unmix_add

/-- The round keys of the inverse cipher: the outer two trade places, the inner ones are
reversed and unmixed. -/
def Layers.inverseKeys (count : Nat) (keys : Nat → State) (place : Nat) : State :=
  if place = 0 ∨ place = count + 1 then keys (count + 1 - place)
  else layers.mix.symm (keys (count + 1 - place))

/-- The inverse rounds retrace the rounds: after some of them the state is the substituted
state that so many rounds earlier the cipher passed. -/
theorem Layers.inverse_rounds (count : Nat) (keys : Nat → State) (state : State) (done : Nat)
    (within : done ≤ count) :
    layers.inverse.rounds (layers.inverseKeys count keys) done
        (layers.substitute (layers.rounds keys count state)) =
      layers.substitute (layers.rounds keys (count - done) state) := by
  induction done with
  | zero => rfl
  | succ done ih =>
    have retraced := ih (by omega)
    have place : count - done = count - (done + 1) + 1 := by omega
    have inner : layers.inverseKeys count keys (done + 1) =
        layers.mix.symm (keys (count - done)) := by
      have same : count + 1 - (done + 1) = count - done := by omega
      rw [Layers.inverseKeys, if_neg (by omega), same]
    calc layers.inverse.rounds (layers.inverseKeys count keys) (done + 1)
          (layers.substitute (layers.rounds keys count state))
        = layers.add (layers.mix.symm (layers.substitute.symm
            (layers.substitute (layers.rounds keys (count - done) state))))
            (layers.mix.symm (keys (count - done))) := by
          rw [← retraced, ← inner]
          rfl
      _ = layers.add (layers.mix.symm (layers.rounds keys (count - done) state))
            (layers.mix.symm (keys (count - done))) := by
          rw [Equiv.symm_apply_apply]
      _ = layers.substitute (layers.rounds keys (count - (done + 1)) state) := by
          rw [place, Layers.rounds, layers.unmix_add, Equiv.symm_apply_apply, layers.add_add]

/-- The inverse cipher undoes the cipher, whatever its round keys are. -/
theorem Layers.inverse_encrypt (count : Nat) (keys : Nat → State) (state : State) :
    layers.inverse.encrypt count (layers.inverseKeys count keys)
      (layers.encrypt count keys state) = state := by
  have first : layers.inverseKeys count keys 0 = keys (count + 1) := by
    simp [Layers.inverseKeys]
  have last : layers.inverseKeys count keys (count + 1) = keys 0 := by
    simp [Layers.inverseKeys]
  have retraced :=
    layers.inverse_rounds count keys (layers.add state (keys 0)) count (Nat.le_refl count)
  have start : layers.inverse.add (layers.encrypt count keys state) (keys (count + 1)) =
      layers.substitute (layers.rounds keys count (layers.add state (keys 0))) :=
    layers.add_add _ _
  rw [Layers.encrypt, first, last, start, retraced, Nat.sub_self]
  calc layers.add (layers.substitute.symm (layers.substitute (layers.add state (keys 0)))) (keys 0)
      = layers.add (layers.add state (keys 0)) (keys 0) := by rw [Equiv.symm_apply_apply]
    _ = state := layers.add_add state (keys 0)

/-- Reversing and unmixing the keys twice, back with the mixing, gives the keys. -/
theorem Layers.inverseKeys_inverse (count : Nat) (keys : Nat → State) (place : Nat)
    (within : place ≤ count + 1) :
    layers.inverse.inverseKeys count (layers.inverseKeys count keys) place = keys place := by
  have back : count + 1 - (count + 1 - place) = place := by omega
  unfold Layers.inverseKeys
  by_cases outer : place = 0 ∨ place = count + 1
  · have mirrored : count + 1 - place = 0 ∨ count + 1 - place = count + 1 := by omega
    rw [if_pos outer, if_pos mirrored, back]
  · have mirrored : ¬ (count + 1 - place = 0 ∨ count + 1 - place = count + 1) := by omega
    rw [if_neg outer, if_neg mirrored, back]
    exact layers.mix.apply_symm_apply (keys place)

/-- The rounds read the keys up to their number only. -/
theorem Layers.rounds_congr (count : Nat) (keys others : Nat → State) (state : State)
    (same : ∀ place, place ≤ count → keys place = others place) :
    layers.rounds keys count state = layers.rounds others count state := by
  induction count with
  | zero => rfl
  | succ count ih =>
    rw [Layers.rounds, Layers.rounds, ih fun place le => same place (by omega),
      same (count + 1) (Nat.le_refl _)]

/-- The cipher reads the keys up to its last round only. -/
theorem Layers.encrypt_congr (count : Nat) (keys others : Nat → State) (state : State)
    (same : ∀ place, place ≤ count + 1 → keys place = others place) :
    layers.encrypt count keys state = layers.encrypt count others state := by
  have reached := layers.rounds_congr count keys others (layers.add state (others 0))
    fun place le => same place (by omega)
  rw [Layers.encrypt, Layers.encrypt, same 0 (by omega), same (count + 1) (Nat.le_refl _), reached]

/-- The cipher undoes the inverse cipher. -/
theorem Layers.encrypt_inverse (count : Nat) (keys : Nat → State) (state : State) :
    layers.encrypt count keys
      (layers.inverse.encrypt count (layers.inverseKeys count keys) state) = state := by
  have undone := layers.inverse.inverse_encrypt count (layers.inverseKeys count keys) state
  have given := layers.encrypt_congr count
    (layers.inverse.inverseKeys count (layers.inverseKeys count keys)) keys
    (layers.inverse.encrypt count (layers.inverseKeys count keys) state)
    fun place le => layers.inverseKeys_inverse count keys place le
  exact given.symm.trans undone

end Udp2raw.RoundCipher
