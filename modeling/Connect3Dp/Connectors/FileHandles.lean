import Connect3Dp.Connectors.BambuLab

/-!
# The handles of files on a Bambu Lab printer

The URI of a handle is the path after a prefix, and for a thumbnail there is a suffix after the
path. The two kinds are told apart by the suffix and by the MIME type. A path can end in the suffix
too, and a thumbnail needs one that is not empty.

`handles_iff` says which paths are read back from a handle, and that no handle is of both kinds.
-/

namespace Connect3Dp

namespace BambuLab

/-- `TryParseAs3MFThumbnailHandle`: the path of the file that a thumbnail belongs to. The prefix and
the suffix are ASCII, so it makes no difference that characters are counted here. -/
def tryParseAs3MFThumbnailHandle (handle : MachineFileHandle) : Except Fault (Option String) :=
  match handle.uri with
  | none => .error .nullReference
  | some uri => .ok (
    if !scheme3MF.toList.isPrefixOf uri.toList || !thumbnailSuffix.toList.isSuffixOf uri.toList ||
      !(handle.mime.any fun mime => equalsIgnoreCase mime mimeTypePNG) then none
    else
      let length : ℤ := uri.toList.length - scheme3MF.toList.length - thumbnailSuffix.toList.length
      if length ≤ 0 then none
      else some (.ofList ((uri.toList.drop scheme3MF.toList.length).take length.toNat)))

/-- The suffix can begin with the last character of the prefix. -/
theorem suffix_scheme_append_iff (path : List Char) :
    thumbnailSuffix.toList <:+ scheme3MF.toList ++ path ↔
      path = "Thumbnail".toList ∨ thumbnailSuffix.toList <:+ path := by
  have hsuffix : thumbnailSuffix.toList = '/' :: "Thumbnail".toList := by decide +kernel
  have hscheme : scheme3MF.toList = ['3', 'M', 'F', '/'] := by decide +kernel
  rw [hsuffix, hscheme]
  constructor
  · intro h
    obtain h | h := List.suffix_cons_iff.mp h
    · cases h
    obtain h | h := List.suffix_cons_iff.mp h
    · cases h
    obtain h | h := List.suffix_cons_iff.mp h
    · cases h
    obtain h | h := List.suffix_cons_iff.mp h
    · exact .inl (List.cons.inj h).2.symm
    · exact .inr h
  · rintro (rfl | h)
    · exact ⟨['3', 'M', 'F'], rfl⟩
    · exact h.trans (List.suffix_append _ path)

section Handles

variable (machineID : NetString) (path : String) (hash : NetString)

theorem isPrefixOf_scheme (rest : List Char) :
    scheme3MF.toList.isPrefixOf (scheme3MF.toList ++ rest) = true :=
  List.isPrefixOf_iff_prefix.mpr (List.prefix_append ..)

theorem isSuffixOf_suffix (first second : List Char) :
    thumbnailSuffix.toList.isSuffixOf (first ++ (second ++ thumbnailSuffix.toList)) = true :=
  List.isSuffixOf_iff_suffix.mpr ((List.suffix_append ..).trans (List.suffix_append ..))

theorem equalsIgnoreCase_self (mime : String) : equalsIgnoreCase mime mime = true :=
  decide_eq_true rfl

theorem ok_ite_none_eq_iff (refused : Prop) [Decidable refused] :
    (.ok (if refused then none else some path) : Except Fault (Option String)) = .ok (some path) ↔
      ¬ refused := by
  by_cases h : refused
  · rw [if_pos h]
    exact iff_of_false (by rintro ⟨⟩) (not_not_intro h)
  · rw [if_neg h]
    exact iff_of_true rfl h

/-- What is read of the handle of a file. -/
theorem tryParseAs3MFHandle_handleAs3MF :
    tryParseAs3MFHandle (handleAs3MF machineID path hash) = .ok (
      if path = "Thumbnail" ∨ thumbnailSuffix.toList <:+ path.toList then none else some path) := by
  have hsuffix : thumbnailSuffix.toList.isSuffixOf (scheme3MF.toList ++ path.toList) = true ↔
      path = "Thumbnail" ∨ thumbnailSuffix.toList <:+ path.toList := by
    rw [List.isSuffixOf_iff_suffix, suffix_scheme_append_iff, String.toList_inj]
  simp only [tryParseAs3MFHandle, handleAs3MF, String.toList_append, isPrefixOf_scheme,
    List.drop_left, Option.any_some, equalsIgnoreCase_self, Bool.not_true, Bool.false_or,
    Bool.or_false, hsuffix, String.ofList_toList]

/-- What is read of the handle of a thumbnail. -/
theorem tryParseAs3MFThumbnailHandle_handleAs3MFThumbnail :
    tryParseAs3MFThumbnailHandle (handleAs3MFThumbnail machineID path hash) = .ok (
      if path = "" then none else some path) := by
  have hlength : ((scheme3MF.toList ++ (path.toList ++ thumbnailSuffix.toList)).length : ℤ) -
      scheme3MF.toList.length - thumbnailSuffix.toList.length = path.toList.length := by
    rw [List.length_append, List.length_append]
    omega
  have hempty : (path.toList.length : ℤ) ≤ 0 ↔ path = "" := by
    rw [← String.toList_eq_nil_iff, ← List.length_eq_zero_iff]
    omega
  simp only [tryParseAs3MFThumbnailHandle, handleAs3MFThumbnail, String.toList_append, hlength,
    isSuffixOf_suffix, List.append_assoc, isPrefixOf_scheme, List.drop_left, Option.any_some,
    equalsIgnoreCase_self, Bool.not_true, Bool.or_self, Bool.false_eq_true, if_false, hempty,
    Int.toNat_natCast, List.take_left, String.ofList_toList]

theorem tryParseAs3MFHandle_handleAs3MFThumbnail :
    tryParseAs3MFHandle (handleAs3MFThumbnail machineID path hash) = .ok none := by
  simp only [tryParseAs3MFHandle, handleAs3MFThumbnail, String.toList_append, List.append_assoc,
    isSuffixOf_suffix, Bool.or_true, Bool.true_or, if_true]

theorem tryParseAs3MFThumbnailHandle_handleAs3MF :
    tryParseAs3MFThumbnailHandle (handleAs3MF machineID path hash) = .ok none := by
  have hmime : equalsIgnoreCase mimeType3MF mimeTypePNG = false := by decide +kernel
  simp only [tryParseAs3MFThumbnailHandle, handleAs3MF, Option.any_some, hmime, Bool.not_false,
    Bool.or_true, if_true]

/-- **Which handles are read back**: that of a file, unless its path ends in the suffix or makes the
prefix do so, and that of a thumbnail, unless the path is empty. No handle of one kind is read as
one of the other. -/
theorem handles_iff :
    (tryParseAs3MFHandle (handleAs3MF machineID path hash) = .ok (some path) ↔
      path ≠ "Thumbnail" ∧ ¬ thumbnailSuffix.toList <:+ path.toList) ∧
    (tryParseAs3MFThumbnailHandle (handleAs3MFThumbnail machineID path hash) = .ok (some path) ↔
      path ≠ "") ∧
    tryParseAs3MFHandle (handleAs3MFThumbnail machineID path hash) = .ok none ∧
    tryParseAs3MFThumbnailHandle (handleAs3MF machineID path hash) = .ok none := by
  refine ⟨?_, ?_, tryParseAs3MFHandle_handleAs3MFThumbnail ..,
    tryParseAs3MFThumbnailHandle_handleAs3MF ..⟩
  · rw [tryParseAs3MFHandle_handleAs3MF, ← not_or, ok_ite_none_eq_iff]
  · rw [tryParseAs3MFThumbnailHandle_handleAs3MFThumbnail, ok_ite_none_eq_iff]

end Handles

/-- A file that is called like the suffix, and the thumbnail of an empty path. -/
theorem handles_fails :
    tryParseAs3MFHandle (handleAs3MF (some "01P00A") "cache/Thumbnail" (some "")) ≠
        .ok (some "cache/Thumbnail") ∧
      tryParseAs3MFThumbnailHandle (handleAs3MFThumbnail (some "01P00A") "" (some "")) ≠
        .ok (some "") := by
  rw [tryParseAs3MFHandle_handleAs3MF, tryParseAs3MFThumbnailHandle_handleAs3MFThumbnail, Ne, Ne,
    ok_ite_none_eq_iff, ok_ite_none_eq_iff]
  decide +kernel

end BambuLab

end Connect3Dp
