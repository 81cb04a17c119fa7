import Relint.Converter.Basic
import Relint.Distinct

/-!
Presets that a TSLint configuration extends, and the presets and plugins that
take their place.
-/

namespace Relint

def recommendedPresets : List String := [
  "eslint:recommended",
  "plugin:@typescript-eslint/recommended",
  "plugin:@typescript-eslint/recommended-requiring-type-checking"]

/-- The name of the preset that switches off what Prettier takes care of. -/
def prettierPreset : String :=
  "prettier"

/-- What takes the place of one preset. -/
structure PresetReplacement where
  presets : List String
  plugins : List String

/-- What takes the place of a preset; nothing for an unknown one. -/
def replacePreset? : String → Option PresetReplacement
  | "tslint:recommended" | "tslint:latest" | "tslint:all" => some ⟨recommendedPresets, []⟩
  | "tslint-config-prettier" | "tslint-plugin-prettier" => some ⟨[prettierPreset], []⟩
  | "tslint-react" => some ⟨["plugin:react/recommended"], ["eslint-plugin-react"]⟩
  | "tslint-eslint-rules" => some ⟨[], []⟩
  | _ => none

/-- What takes the place of a list of presets, and which of them are unknown. -/
structure PresetConversion where
  presets : List String
  plugins : List String
  missing : List String
  deriving DecidableEq

/-- Converts presets in order. Where the layout is left to Prettier its preset is
left out, because it is put at the very end later. -/
def convertPresets (settings : ConversionSettings) (presets : List String) : PresetConversion :=
  let replacements := presets.filterMap replacePreset?
  let deferred (preset : String) : Bool := settings.prettier && preset == prettierPreset
  ⟨distinct ((replacements.flatMap (·.presets)).filter (!deferred ·)),
    distinct (replacements.flatMap (·.plugins)),
    presets.filter fun preset => (replacePreset? preset).isNone⟩

end Relint
