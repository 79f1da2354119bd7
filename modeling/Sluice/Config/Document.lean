import Sluice.Config.Basic
import Sluice.Toml.Reader
import Sluice.Toml.Writer

/-!
# Configuration as a document

How an overlay is read from a TOML document and how all settings are written as one. Keys that are
no settings are passed over; one setting of the wrong type spoils the whole overlay. A section may
also be given as a list of its settings in their order, and a date counts as a table with a key of
its own.
-/

namespace Sluice

namespace Toml

variable {σ : Type}

def asText? : Toml → Option String
  | text s => some s
  | _ => none

def asBool? : Toml → Option Bool
  | boolean b => some b
  | _ => none

def asCount? : Toml → Option Nat
  | integer i => if 0 ≤ i then some i.toNat else none
  | _ => none

def asTexts? : Toml → Option (List String)
  | list items => items.mapM asText?
  | _ => none

/-- The key under which a date stands in the table that it counts as. -/
def momentKey : String := "$__toml_private_datetime"

/-- A key with the text that it has. -/
def asTextEntry? (entry : String × Toml) : Option (String × String) :=
  (asText? entry.2).map fun s => (entry.1, s)

def asTextTable? : Toml → Option (List (String × String))
  | table _ entries => (entries.mapM asTextEntry?).map (Keyed.ofList Prod.fst)
  | moment written => some [(momentKey, written)]
  | _ => none

/-- How a setting is read into a state. -/
structure Setting (σ : Type) where
  name : String
  /-- It may be missing in a list of settings. -/
  optional : Bool
  read : Toml → σ → Option σ

/-- Reads settings from a list in their order. -/
def readInOrder : List (Setting σ) → List Toml → σ → Option σ
  | [], _, s => some s
  | setting :: settings, [], s => if setting.optional then readInOrder settings [] s else none
  | setting :: settings, v :: vs, s => do readInOrder settings vs (← setting.read v s)

def readEntries (settings : List (Setting σ)) (entries : Entries) (s : σ) : Option σ :=
  entries.foldlM (fun s (key, v) =>
    match settings.find? fun setting => setting.name == key with
    | some setting => setting.read v s
    | none => some s) s

def readSection (settings : List (Setting σ)) (v : Toml) (s : σ) : Option σ :=
  match v with
  | table _ entries => readEntries settings entries s
  | moment written => readEntries settings [(momentKey, text written)] s
  | list items => readInOrder settings items s
  | tables rows => readInOrder settings (rows.map (table .header)) s
  | _ => none

def listSettings {α : Type} (field : String) (items? : Toml → Option (List α))
    (change : (ListChange α → ListChange α) → σ → σ) : List (Setting σ) :=
  [⟨"replace", true, fun v s => v.asBool?.map fun b => change (fun c => { c with replace := b }) s⟩,
    ⟨field, true, fun v s => (items? v).map fun xs => change (fun c => { c with add := xs }) s⟩,
    ⟨s!"remove_{field}", true, fun v s =>
      v.asTexts?.map fun xs => change (fun c => { c with remove := xs }) s⟩]

end Toml

namespace Overlay

open Toml

/-- The sections of an overlay. -/
def sections : List (Setting Overlay) :=
  [⟨"settings", true, readSection
      [⟨"log_level", false, fun v o => v.asText?.map fun s => { o with logLevel := some s }⟩,
        ⟨"assume_yes", false, fun v o => v.asBool?.map fun b => { o with assumeYes := some b }⟩,
        ⟨"history", false, fun v o => v.asBool?.map fun b => { o with history := some b }⟩]⟩,
    ⟨"paths", true, readSection
      [⟨"home", false, fun v o => v.asText?.map fun s => { o with home := some s }⟩]⟩,
    ⟨"workspace", true, readSection
      (listSettings "roots" asTexts? fun change o => { o with roots := change o.roots })⟩,
    ⟨"output", true, readSection
      [⟨"default_mode", false, fun v o => v.asText?.map fun s => { o with outputMode := some s }⟩,
        ⟨"max_column_width", false, fun v o =>
          v.asCount?.map fun n => { o with maxColumnWidth := some n }⟩]⟩,
    ⟨"scripts", true, readSection
      (listSettings "interpreters" asTextTable? fun change o =>
        { o with interpreters := change o.interpreters })⟩,
    ⟨"commands", true, readSection
      (listSettings "disabled" asTexts? fun change o => { o with disabled := change o.disabled })⟩]

def read? (document : String) : Option Overlay := do
  readSection sections (.table .header (← Toml.read? document)) Overlay.none

end Overlay

namespace Config

/-- A section of the document: its header and lines. -/
def sectionText (name : String) (lines : List (String × String)) : String :=
  s!"[{name}]\n" ++ String.join (lines.map fun (key, value) => s!"{key} = {value}\n")

def document (c : Config) : String :=
  String.intercalate "\n"
    [sectionText "settings"
        [("log_level", Toml.quoteText c.logLevel), ("assume_yes", toString c.assumeYes),
          ("history", toString c.history)],
      sectionText "paths" [("home", Toml.quoteText c.home)],
      sectionText "workspace" [("roots", Toml.quoteList c.roots)],
      sectionText "output"
        [("default_mode", Toml.quoteText c.output.mode),
          ("max_column_width", toString c.output.maxColumnWidth)],
      sectionText "scripts.interpreters"
        (c.interpreters.map fun (ending, line) => (Toml.quoteKey ending, Toml.quoteText line)),
      sectionText "commands" [("disabled", Toml.quoteList c.disabled)]]

end Config

end Sluice
