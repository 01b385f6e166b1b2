import TorrentSearch.Markup.Rules.Body

/-!
# Choices

The options of a choice. Most other elements have no place there and are left out.
-/

namespace TorrentSearch.Markup.Builder

def closeChoice (b : Builder) : Builder := (b.closeNamed "select").resetMode

def closeOption (b : Builder) : Builder :=
  if b.currentIsNamed "option" then b.pop else b

/-- An open option and then an open group of options end. -/
def closeOptionGroup (b : Builder) : Builder :=
  let b := b.closeOption
  if b.currentIsNamed "optgroup" then b.pop else b

def startInChoice (b : Builder) (tag : Tag) : Outcome :=
  match tag.name with
  | "html" => .done (b.extendRoot tag)
  | "option" => .done (b.closeOption.openElement tag)
  | "optgroup" => .done (b.closeOptionGroup.openElement tag)
  | "hr" => .done (b.closeOptionGroup.addElement tag)
  | "select" => .done (if b.reachesInChoice "select" then b.closeChoice else b)
  | "input" | "keygen" | "textarea" =>
    if b.reachesInChoice "select" then .again b.closeChoice else .done b
  | "script" | "template" => b.startInHead tag
  | _ => .done b

def endInChoice (b : Builder) (name : String) : Outcome :=
  match name with
  | "optgroup" =>
    let inGroup := b.openElements[1]?.any (OpenElement.isNamed "optgroup")
    let b := if inGroup then b.closeOption else b
    .done (if b.currentIsNamed "optgroup" then b.pop else b)
  | "option" => .done b.closeOption
  | "select" => .done (if b.reachesInChoice "select" then b.closeChoice else b)
  | "template" => .done b.closeTemplate
  | _ => .done b

def inChoice (b : Builder) : Token → Outcome
  | .char c => .done (if c = '\x00' then b else b.putChar c)
  | .comment | .doctype _ => .done b
  | .startTag tag => b.startInChoice tag
  | .endTag tag => b.endInChoice tag.name
  | .finish => b.inBody .finish

/-- Parts of a table that end a choice inside it. -/
def choiceEnders : List String :=
  ["caption", "table", "tbody", "tfoot", "thead", "tr", "td", "th"]

def inChoiceInTable (b : Builder) (t : Token) : Outcome :=
  match t with
  | .startTag tag => if choiceEnders.contains tag.name then .again b.closeChoice else b.inChoice t
  | .endTag tag =>
    if choiceEnders.contains tag.name then
      if b.reachesInTable tag.name then .again b.closeChoice else .done b
    else b.inChoice t
  | _ => b.inChoice t

end TorrentSearch.Markup.Builder
