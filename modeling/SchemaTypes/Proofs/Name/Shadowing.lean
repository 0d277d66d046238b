import SchemaTypes.Proofs.Name.TypeName

/-!
# Which type names shadow what generated code relies on

Generated code names some types and traits without a path, and a generated type of the same name in
the same module would take their place.  Reserved names get a word at their end, so a name that is
relied on can only come out when it is not reserved.  There is one such name.

* `Name.reliedNames`: the names that generated code relies on.
* `Name.finishTypeName_mem_reliedNames_iff`: which names come out as one of them.
-/

namespace SchemaTypes.Name

/-- Names of types and traits that generated code looks up without a path. -/
def reliedNames : List String := ["Self", "Option", "Result", "String", "Vec", "Clone", "Box"]

/-- All of them are reserved, except for one. -/
theorem mem_reservedTypeNames_of_mem_reliedNames {name : String} (hname : name ∈ reliedNames) :
    name ∈ reservedTypeNames ∨ name = "Box" := by
  have hall : ∀ name ∈ reliedNames, name ∈ reservedTypeNames ∨ name = "Box" := by decide
  exact hall name hname

/-- **Finished names that are relied on.**  What is added in the end makes none of these names, and
a reserved name does not stay as it is. -/
theorem finishTypeName_mem_reliedNames_iff (body : List Char) :
    finishTypeName body ∈ reliedNames ↔ String.ofList body = "Box" := by
  -- of the four ways to finish a name only the one that leaves it alone gives a relied name
  have hname := finishes_finishTypeName body
  generalize finishTypeName body = name at hname ⊢
  cases hname with
  | unnamed hnone =>
      subst hnone
      exact iff_of_false (by decide) (by decide)
  | marked hdigit =>
      have hmarked : ∀ name ∈ reliedNames, name.toList.head? ≠ some 'T' := by decide
      refine iff_of_false (fun hmem => hmarked _ hmem ?_) fun hbox => ?_
      · rw [String.toList_ofList, List.head?_cons]
      · obtain rfl : body = "Box".toList := by rw [← hbox, String.toList_ofList]
        cases hdigit
  | extended hreserved =>
      have hextended : ∀ word ∈ reservedTypeNames, word ++ "Type" ∉ reliedNames := by decide
      refine iff_of_false (hextended _ hreserved) fun hbox => ?_
      rw [hbox] at hreserved
      exact absurd hreserved (by decide)
  | kept hsome hletter hfree =>
      constructor
      · exact fun hmem => (mem_reservedTypeNames_of_mem_reliedNames hmem).resolve_left hfree
      · intro hbox
        rw [hbox]
        decide

end SchemaTypes.Name
