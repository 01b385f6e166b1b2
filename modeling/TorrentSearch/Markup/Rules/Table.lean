import TorrentSearch.Markup.Rules.Body

/-!
# Tables

What stands in a table, part by part. What has no place there is read as in the body, but put in
front of the table.
-/

namespace TorrentSearch.Markup.Builder

/-- A token is read as in the body, and what it brings is put in front of the table. -/
def foster (b : Builder) (t : Token) : Outcome :=
  (({ b with fostering := true }).inBody t).map fun b => { b with fostering := false }

def charInTable (b : Builder) (c : Char) : Outcome :=
  if b.openElements.currentIs OpenElement.isTablePart then
    .again { b with returnMode := b.mode, mode := .tableText }
  else b.foster (.char c)

/-- The collected characters are put where they belong: in front of the table if they are more than
spacing. -/
def flushTableText (b : Builder) : Builder :=
  let text := b.tableText.reverse
  let b := { b with tableText := [] }
  if text.all isSpacing then text.foldl putChar b
  else text.foldl (fun b c => (b.foster (.char c)).builder) b

def inTableText (b : Builder) : Token → Outcome
  | .char c => if c = '\x00' then .done b else .done { b with tableText := c :: b.tableText }
  | .doctype _ => .done b
  | _ => .again (b.flushTableText.goTo b.returnMode)

def closeTable (b : Builder) : Builder := (b.closeNamed "table").resetMode

def backToTable (b : Builder) : Builder := b.closeUntil OpenElement.isTableBoundary

def startInTable (b : Builder) (tag : Tag) : Outcome :=
  match tag.name with
  | "caption" => .done ((b.backToTable.addMarker.openElement tag).goTo .caption)
  | "colgroup" => .done ((b.backToTable.openElement tag).goTo .columnGroup)
  | "col" => .again ((b.backToTable.openImplied "colgroup").goTo .columnGroup)
  | "tbody" | "tfoot" | "thead" => .done ((b.backToTable.openElement tag).goTo .rowGroup)
  | "td" | "th" | "tr" => .again ((b.backToTable.openImplied "tbody").goTo .rowGroup)
  | "table" => if b.reachesInTable "table" then .again b.closeTable else .done b
  | "style" | "script" | "template" => b.startInHead tag
  | "input" => if isHiddenInput tag then .done (b.addElement tag) else b.foster (.startTag tag)
  | "form" =>
    if b.hasOpen "template" || b.form.isSome then .done b
    else
      let (b, node) := b.openIn .html tag
      .done { b.pop with form := some node }
  | _ => b.foster (.startTag tag)

def tablePartNames : List String :=
  ["caption", "col", "colgroup", "tbody", "td", "tfoot", "th", "thead", "tr"]

def endInTable (b : Builder) (tag : Tag) : Outcome :=
  if tag.name = "table" then .done (if b.reachesInTable "table" then b.closeTable else b)
  else if tag.name = "body" || tag.name = "html" || tablePartNames.contains tag.name then .done b
  else if tag.name = "template" then .done b.closeTemplate
  else b.foster (.endTag tag)

def inTable (b : Builder) : Token → Outcome
  | .char c => b.charInTable c
  | .comment | .doctype _ => .done b
  | .startTag tag => b.startInTable tag
  | .endTag tag => b.endInTable tag
  | .finish => b.inBody .finish

def closeCaption (b : Builder) : Builder :=
  (b.closeImplied.closeNamed "caption").clearToMarker.goTo .table

def inCaption (b : Builder) (t : Token) : Outcome :=
  match t with
  | .startTag tag =>
    if tablePartNames.contains tag.name then
      if b.reachesInTable "caption" then .again b.closeCaption else .done b
    else b.inBody t
  | .endTag tag =>
    if tag.name = "caption" then
      .done (if b.reachesInTable "caption" then b.closeCaption else b)
    else if tag.name = "table" then
      if b.reachesInTable "caption" then .again b.closeCaption else .done b
    else if tag.name = "body" || tag.name = "html" || tablePartNames.contains tag.name then .done b
    else b.inBody t
  | _ => b.inBody t

/-- The group of columns ends in front of the token. -/
def leaveColumnGroup (b : Builder) : Outcome :=
  if b.currentIsNamed "colgroup" then .again (b.pop.goTo .table) else .done b

def inColumnGroup (b : Builder) : Token → Outcome
  | .char c => if isSpacing c then .done (b.putChar c) else b.leaveColumnGroup
  | .comment | .doctype _ => .done b
  | .startTag tag =>
    match tag.name with
    | "html" => .done (b.extendRoot tag)
    | "col" => .done (b.addElement tag)
    | "template" => .done (b.openTemplate tag)
    | _ => b.leaveColumnGroup
  | .endTag tag =>
    match tag.name with
    | "colgroup" =>
      .done (if b.currentIsNamed "colgroup" then b.pop.goTo .table else b)
    | "col" => .done b
    | "template" => .done b.closeTemplate
    | _ => b.leaveColumnGroup
  | .finish => b.inBody .finish

/-- What is open inside the group of rows ends. -/
def backToGroup (b : Builder) : Builder := b.closeUntil OpenElement.isGroupContext

def closeGroup (b : Builder) : Builder := b.backToGroup.pop.goTo .table

/-- The group of rows ends in front of the token, if there is something to end. -/
def leaveGroup (b : Builder) : Outcome :=
  if b.openElements.inScope OpenElement.isTableBoundary
      (OpenElement.isOneOf ["table", "tbody", "tfoot"]) then
    .again b.closeGroup
  else .done b

def inRowGroup (b : Builder) (t : Token) : Outcome :=
  match t with
  | .startTag tag =>
    if tag.name = "tr" then .done ((b.backToGroup.openElement tag).goTo .row)
    else if tag.name = "td" || tag.name = "th" then
      .again ((b.backToGroup.openImplied "tr").goTo .row)
    else if tablePartNames.contains tag.name then b.leaveGroup
    else b.inTable t
  | .endTag tag =>
    if ["tbody", "tfoot", "thead"].contains tag.name then
      .done (if b.reachesInTable tag.name then b.closeGroup else b)
    else if tag.name = "table" then b.leaveGroup
    else if tag.name = "body" || tag.name = "html" || tablePartNames.contains tag.name then .done b
    else b.inTable t
  | _ => b.inTable t

def backToRow (b : Builder) : Builder := b.closeUntil OpenElement.isRowContext

def closeRow (b : Builder) : Builder := b.backToRow.pop.goTo .rowGroup

/-- The row ends in front of the token, if there is one. -/
def leaveRow (b : Builder) : Outcome :=
  if b.reachesInTable "tr" then .again b.closeRow else .done b

def inRow (b : Builder) (t : Token) : Outcome :=
  match t with
  | .startTag tag =>
    if tag.name = "td" || tag.name = "th" then
      .done ((b.backToRow.openElement tag).goTo .cell).addMarker
    else if tablePartNames.contains tag.name then b.leaveRow
    else b.inTable t
  | .endTag tag =>
    if tag.name = "tr" then .done (if b.reachesInTable "tr" then b.closeRow else b)
    else if tag.name = "table" then b.leaveRow
    else if ["tbody", "tfoot", "thead"].contains tag.name then
      if b.reachesInTable tag.name then b.leaveRow else .done b
    else if tag.name = "body" || tag.name = "html" || tablePartNames.contains tag.name then .done b
    else b.inTable t
  | _ => b.inTable t

def closeCell (b : Builder) : Builder :=
  (b.closeImplied.mapOpen (·.closeThrough OpenElement.isCell)).clearToMarker.goTo .row

def inCell (b : Builder) (t : Token) : Outcome :=
  match t with
  | .startTag tag =>
    if tablePartNames.contains tag.name then
      if b.openElements.inScope OpenElement.isTableBoundary OpenElement.isCell then
        .again b.closeCell
      else .done b
    else b.inBody t
  | .endTag tag =>
    if tag.name = "td" || tag.name = "th" then
      .done (if b.reachesInTable tag.name then
        (b.closeImplied.closeNamed tag.name).clearToMarker.goTo .row else b)
    else if ["body", "caption", "col", "colgroup", "html"].contains tag.name then .done b
    else if ["table", "tbody", "tfoot", "thead", "tr"].contains tag.name then
      if b.reachesInTable tag.name then .again b.closeCell else .done b
    else b.inBody t
  | _ => b.inBody t

end TorrentSearch.Markup.Builder
