import WireSchema.Proofs.Schema.Erasure
import WireSchema.Proofs.Source.Relocation
import WireSchema.Schema.Extract

/-!
# What models keep of definitions

Without places and namespaces, the model of some sources is made from nothing but the list of their
recognized definitions without places and namespaces (`Model.extract_erase`). How the definitions
are spread over the sources and what the sources are called makes no difference.
-/

namespace WireSchema

open WireSchema.Source

/-- A definition without its places and its namespace. -/
def Source.Definition.erase (d : Definition) : Definition :=
  { d.relocate (fun _ => .start) with scope := none }

/-- A definition is the same without places wherever it stood. -/
theorem erase_relocate (f : Position → Position) (d : Definition) :
    (d.relocate f).erase = d.erase := by
  obtain ⟨name, scope, position, body⟩ := d
  have hmember : MemberDecl.relocate (fun _ => .start) ∘ MemberDecl.relocate f =
      MemberDecl.relocate fun _ => .start := rfl
  have hfield : FieldDecl.relocate (fun _ => .start) ∘ FieldDecl.relocate f =
      FieldDecl.relocate fun _ => .start := rfl
  cases body <;> simp [Definition.erase, Definition.relocate, Body.relocate, hmember, hfield]

/-- The enum of a definition, without places and namespace. -/
def Source.Definition.enum? (defaultWidth : Option Width) (d : Definition) : Option Enumeration :=
  match d.body with
  | .enum width members => some (extractEnum "" d (width.or defaultWidth) members).erase
  | .message _ _ _ => none

/-- The message of a definition, without places and namespace. -/
def Source.Definition.message? (d : Definition) : Option Message :=
  match d.body with
  | .message (some id) marker fields => some (extractMessage "" d id marker fields).erase
  | _ => none

/-- The enum of a definition is that of the definition without places, up to places. -/
theorem extractEnum_erase (source : String) (d : Definition) (width : Option Width)
    (members : List MemberDecl) :
    (extractEnum source d width members).erase =
      (extractEnum "" d.erase width (members.map (·.relocate fun _ => .start))).erase := by
  simp [extractEnum, Enumeration.erase, Definition.erase, Definition.relocate, Member.erase,
    MemberDecl.relocate, Function.comp_def]

/-- The message of a definition is that of the definition without places, up to places. -/
theorem extractMessage_erase (source : String) (d : Definition) (id : Int) (marker : Bool)
    (fields : List FieldDecl) :
    (extractMessage source d id marker fields).erase =
      (extractMessage "" d.erase id marker (fields.map (·.relocate fun _ => .start))).erase := by
  simp [extractMessage, Message.erase, Definition.erase, Definition.relocate, Field.erase,
    FieldDecl.relocate, Function.comp_def, List.zipIdx_map]

/-- Up to places, the enums of a file are made of its recognized definitions alone. -/
theorem enumsIn_erase (recognized : Option String) (width : Option Width) (file : SourceFile) :
    (enumsIn recognized width file).map Enumeration.erase =
      ((recognizedIn recognized file).map Definition.erase).filterMap (Definition.enum? width) := by
  rw [enumsIn, List.filterMap_map, List.map_filterMap]
  congr 1
  funext d
  obtain ⟨name, scope, position, body⟩ := d
  cases body with
  | enum width members => exact congrArg some (extractEnum_erase _ _ _ _)
  | message id marker fields => rfl

/-- Up to places, the messages of a file are made of its recognized definitions alone. -/
theorem messagesIn_erase (recognized : Option String) (file : SourceFile) :
    (messagesIn recognized file).map Message.erase =
      ((recognizedIn recognized file).map Definition.erase).filterMap Definition.message? := by
  rw [messagesIn, List.filterMap_map, List.map_filterMap]
  congr 1
  funext d
  obtain ⟨name, scope, position, body⟩ := d
  cases body with
  | enum width members => rfl
  | message id marker fields =>
    cases id with
    | none => rfl
    | some id => exact congrArg some (extractMessage_erase _ _ _ _ _)

/-- A model without places and namespaces is made from the recognized definitions without them. -/
theorem Model.extract_erase (files : List SourceFile) (recognized : Option String)
    (width : Option Width) :
    (extract files recognized width).erase =
      ⟨recognized,
        ((files.flatMap (recognizedIn recognized)).map Definition.erase).filterMap
          (Definition.enum? width),
        ((files.flatMap (recognizedIn recognized)).map Definition.erase).filterMap
          Definition.message?⟩ := by
  simp only [erase, extract, List.map_flatMap, enumsIn_erase, messagesIn_erase,
    List.filterMap_flatMap]

end WireSchema
