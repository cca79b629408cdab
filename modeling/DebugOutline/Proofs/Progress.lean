import Mathlib
import DebugOutline.Dwarf.Stream

/-! Reading values goes forward: no step of it leaves more bytes than there were. -/
namespace DebugOutline

/-- Wherever it starts, a step of reading that succeeds leaves no more than there was. -/
def Decode.Advances (decode : Decode α) : Prop :=
  ∀ cursor value after, decode.run cursor = some (value, after) →
    after.remaining ≤ cursor.remaining

namespace Decode.Advances

theorem pure (value : α) : Advances (Pure.pure value) := by
  intro cursor found after run
  cases run
  exact Nat.le_refl _

theorem failure : Advances (failure : Decode α) := by
  intro cursor found after run
  cases run

theorem get : Advances get := by
  intro cursor found after run
  cases run
  exact Nat.le_refl _

theorem bind {first : Decode α} {next : α → Decode β} (goes : Advances first)
    (goesOn : ∀ value, Advances (next value)) : Advances (first >>= next) := by
  intro cursor found after run
  rw [StateT.run_bind] at run
  obtain ⟨⟨value, middle⟩, firstRun, nextRun⟩ := Option.bind_eq_some_iff.mp run
  exact Nat.le_trans (goesOn value middle found after nextRun) (goes cursor value middle firstRun)

theorem map {first : Decode α} (goes : Advances first) (change : α → β) :
    Advances (do return change (← first)) := bind goes fun _ => pure _

theorem ite {condition : Prop} [Decidable condition] {first second : Decode α}
    (goes : Advances first) (also : Advances second) :
    Advances (if condition then first else second) := by
  split
  · exact goes
  · exact also

theorem mapM {step : α → Decode β} (goes : ∀ element, Advances (step element))
    (elements : List α) : Advances (elements.mapM step) := by
  induction elements with
  | nil => exact pure []
  | cons element rest ih =>
    rw [List.mapM_cons]
    exact bind (goes element) fun _ => bind ih fun _ => pure _

end Decode.Advances

namespace Decode

/-- What `skip` goes over was there. -/
theorem skip_run {cursor after : Cursor} (run : (skip count).run cursor = some (value, after)) :
    count ≤ cursor.remaining ∧ after.remaining = cursor.remaining - count := by
  simp only [skip, StateT.run_bind, StateT.run_get, Option.pure_def, Option.bind_eq_bind,
    Option.bind_some] at run
  split at run
  · cases run
  · cases run
    simp only [Cursor.remaining] at *
    omega

theorem advances_skip (count : Nat) : Advances (skip count) := by
  intro cursor value after run
  have := skip_run run
  omega

theorem advances_u8 : Advances u8 := by
  refine .bind .get fun cursor => .bind (advances_skip 1) fun _ => ?_
  split
  · exact .pure _
  · exact .failure

theorem advances_octets (count : Nat) : Advances (octets count) := by
  induction count with
  | zero => exact .pure []
  | succ count ih => exact .bind advances_u8 fun _ => ih.map _

theorem advances_unsigned (width : Nat) : Advances (unsigned width) :=
  .bind .get fun _ => (advances_octets width).map _

theorem advances_fixed (width : Nat) : Advances (fixed width) :=
  .bind .get fun _ => (advances_unsigned width).map _

theorem advances_groups (fuel shift : Nat) : Advances (groups fuel shift) := by
  induction fuel generalizing shift with
  | zero => exact .failure
  | succ fuel ih =>
    refine .bind advances_u8 fun octet => .ite .failure ?_
    exact .ite (.pure _) ((ih _).map _)

theorem advances_uleb128 : Advances uleb128 := advances_groups 10 0

theorem advances_uleb16 : Advances uleb16 := by
  refine .bind advances_u8 fun first => .ite (.pure _) ?_
  refine .bind advances_u8 fun second => .ite (.pure _) ?_
  exact .bind advances_u8 fun third => .ite .failure (.pure _)

theorem advances_signedGroups (fuel shift : Nat) : Advances (signedGroups fuel shift) := by
  induction fuel generalizing shift with
  | zero => exact .failure
  | succ fuel ih =>
    refine .bind advances_u8 fun octet => .ite .failure ?_
    exact .ite ((ih _).map _) (.ite (.pure _) (.pure _))

theorem advances_sleb128 : Advances sleb128 := (advances_signedGroups 10 0).map _

theorem advances_untilZero (fuel : Nat) : Advances (untilZero fuel) := by
  induction fuel with
  | zero => exact .failure
  | succ fuel ih => exact .bind advances_u8 fun _ => .ite (.pure _) (ih.map _)

theorem advances_zeroEnded : Advances zeroEnded := .bind .get fun _ => advances_untilZero _

/-- A byte is gone over. -/
theorem remaining_u8 {cursor after : Cursor} (run : u8.run cursor = some (octet, after)) :
    after.remaining < cursor.remaining := by
  simp only [u8, StateT.run_bind, StateT.run_get, Option.pure_def, Option.bind_eq_bind,
    Option.bind_some] at run
  obtain ⟨⟨_, middle⟩, skipRun, valueRun⟩ := Option.bind_eq_some_iff.mp run
  have gone := skip_run skipRun
  split at valueRun <;> cases valueRun
  show middle.remaining < cursor.remaining
  omega

/-- What follows a byte leaves less than there was in front of it. -/
theorem remaining_of_u8 {next : Nat → Decode α} (goes : ∀ octet, Advances (next octet))
    {cursor after : Cursor} (run : (u8 >>= next).run cursor = some (value, after)) :
    after.remaining < cursor.remaining := by
  rw [StateT.run_bind] at run
  obtain ⟨⟨octet, middle⟩, octetRun, nextRun⟩ := Option.bind_eq_some_iff.mp run
  exact Nat.lt_of_le_of_lt (goes octet middle value after nextRun) (remaining_u8 octetRun)

/-- A number takes a byte at least. -/
theorem remaining_uleb128 {cursor after : Cursor} (run : uleb128.run cursor = some (value, after)) :
    after.remaining < cursor.remaining :=
  remaining_of_u8 (fun _ => .ite .failure (.ite (.pure _) ((advances_groups _ _).map _))) run

end Decode

namespace Dwarf

open Decode

namespace Encoded

theorem advances_readOffset (encoding : Encoding) : Advances encoding.readOffset :=
  advances_fixed _

theorem advances_readBlock (length : Nat) : Advances (readBlock length) :=
  .bind (advances_skip length) fun _ => .pure _

theorem advances_readUnsigned (width : Nat) : Advances (readUnsigned width) :=
  (advances_unsigned width).map _

theorem advances_readText (found : readText? encoding form = some decode) : Advances decode := by
  unfold readText? at found
  split at found <;> cases found
  · exact advances_zeroEnded.map _
  iterate 4 exact (advances_readOffset encoding).map _
  iterate 2 exact advances_uleb128.map _
  iterate 4 exact (advances_unsigned _).map _

theorem advances_readData (found : readData? form = some decode) : Advances decode := by
  unfold readData? at found
  split at found <;> cases found
  iterate 3 exact .bind (advances_unsigned _) advances_readBlock
  · exact .bind advances_uleb128 advances_readBlock
  iterate 4 exact advances_readUnsigned _
  · exact advances_readBlock _
  · exact advances_uleb128.map _
  · exact advances_sleb128.map _
  · exact advances_u8.map _

theorem advances_readReference (found : readReference? encoding form = some decode) :
    Advances decode := by
  unfold readReference? at found
  split at found <;> cases found
  iterate 4 exact (advances_unsigned _).map _
  · exact advances_uleb128.map _
  · exact (advances_fixed _).map _
  iterate 3 exact .bind (advances_skip _) fun _ => .pure _
  · exact (advances_readOffset encoding).map _

theorem advances_readPlace (found : readPlace? encoding form = some decode) : Advances decode := by
  unfold readPlace? at found
  split at found <;> cases found
  · exact (advances_fixed _).map _
  · exact (advances_readOffset encoding).map _
  iterate 2 exact advances_uleb128.map _
  iterate 4 exact (advances_unsigned _).map _
  iterate 2 exact advances_uleb128.map _

/-- Whatever the form, a value does not end in front of its start. -/
theorem advances_read (encoding : Encoding) (name : Attr) (constant : Option Int64) (fuel : Nat)
    (form : Form) : Advances (read encoding name constant fuel form) := by
  induction fuel generalizing form with
  | zero => exact .failure
  | succ fuel ih =>
    unfold read
    refine .ite (.bind advances_uleb16 fun _ => ih _) (.ite ?_ (.ite (.pure _) (.ite ?_ (.ite ?_ ?_))))
    · split
      · exact .pure _
      · exact .failure
    · exact .bind advances_uleb128 fun _ => .bind (advances_skip _) fun _ => .pure _
    · exact (advances_readOffset encoding).map _
    · split
      · rename_i decode found
        rcases Option.or_eq_some_iff.mp found with text | ⟨-, found⟩
        · exact advances_readText text
        rcases Option.or_eq_some_iff.mp found with data | ⟨-, found⟩
        · exact advances_readData data
        rcases Option.or_eq_some_iff.mp found with reference | ⟨-, place⟩
        · exact advances_readReference reference
        · exact advances_readPlace place
      · exact .failure

end Encoded

/-- The values of an entry do not end in front of their start. -/
theorem advances_readValues (encoding : Encoding) (abbreviation : Abbreviation) :
    Advances (readValues encoding abbreviation) :=
  .mapM (fun _ => .bind .get fun _ => (Encoded.advances_read encoding _ _ _ _).map _) _

end Dwarf

end DebugOutline
