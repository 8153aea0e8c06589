import SecondaryIndex.KeyLayout

namespace SecondaryIndex.Session.Layouts

/-!
# A session with one key layout

Options that are not given keep their standard value.  Without any options the
standard layout is used as it is; otherwise the namespaces are checked.
-/

/-- The options that have been given. -/
structure Settings where
  indexNamespace : Option String
  recordNamespace : Option String
  batchSize : Option Nat
  deriving Repr, DecidableEq

namespace Settings

/-- The standard options with the given ones in their place. -/
def options
    (settings : Settings) :
    LayoutOptions :=
  let standard := LayoutOptions.standard
  let named : LayoutOptions :=
    { standard with
      indexNamespace := settings.indexNamespace.getD standard.indexNamespace
      recordNamespace := settings.recordNamespace.getD standard.recordNamespace }
  match settings.batchSize with
  | some batchSize => named.withBatchSize batchSize
  | none => named

end Settings

/-- The layout of the given settings. -/
def layout :
    Option Settings → Except IndexError KeyLayout
  | none =>
      .ok .standard
  | some settings =>
      KeyLayout.ofOptions settings.options

/-- A key that a layout can be asked for. -/
inductive Request where
  | recordLead (typeName : String)
  | recordKey (typeName : String) (key : Bytes)
  | indexLead (typeName index : String)
  | entryKey (typeName index : String) (value : Bytes)
  deriving Repr, DecidableEq

/-- The key that is asked for. -/
def answer
    (layout : KeyLayout) :
    Request → Except IndexError Bytes
  | .recordLead typeName =>
      layout.recordLead typeName
  | .recordKey typeName key =>
      layout.recordKey typeName key
  | .indexLead typeName index =>
      layout.indexLead typeName index
  | .entryKey typeName index value =>
      layout.entryKey typeName index value

end SecondaryIndex.Session.Layouts
