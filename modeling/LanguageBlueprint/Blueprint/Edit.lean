/-
  LanguageBlueprint/Blueprint/Edit.lean
  =====================================
  **Edits of a blueprint.**  An edit is a value, and applying it makes a new
  blueprint from an old one.  It sets one field, adds or removes a data type,
  appends a part to its collection, or removes or replaces parts by their place
  or by their key.  An edit that addresses nothing leaves the blueprint as it is.
-/
import LanguageBlueprint.Blueprint.Basic

namespace LanguageBlueprint

inductive Collection where
  | grammarRules | syntaxRules | semanticActions | keywords | operators | builtins
deriving DecidableEq, Repr

/-- A part that can be appended to its collection. -/
inductive Part where
  | grammarRule (rule : GrammarRule)
  | syntaxRule (rule : SyntaxRule)
  | semanticAction (action : SemanticAction)
  | keyword (keyword : Keyword)
  | operator (operator : Operator)
  | builtin (builtin : Builtin)
deriving DecidableEq, Repr

def Part.collection : Part → Collection
  | .grammarRule _ => .grammarRules
  | .syntaxRule _ => .syntaxRules
  | .semanticAction _ => .semanticActions
  | .keyword _ => .keywords
  | .operator _ => .operators
  | .builtin _ => .builtins

/-- One change of a blueprint. -/
inductive Edit where
  | setName (name : String)
  | setVersion (version : String)
  | setDescription (description : String)
  | setExecution (execution : Execution)
  | setBackend (backend : Option Backend)
  | setFileExtension (extension : String)
  | setAuthor (author : Option String)
  | setComments (markers : CommentMarkers)
  | setLineComment (marker : Option String)
  | setBlockCommentStart (marker : Option String)
  | setBlockCommentEnd (marker : Option String)
  | setTypes (types : TypeSet)
  | addType (type : DataType)
  | removeType (type : DataType)
  | append (part : Part)
  | removeAt (collection : Collection) (index : Nat)
  | removeGrammarRule (nodeId : NodeId)
  | replaceGrammarRule (nodeId : NodeId) (rule : GrammarRule)
  | removeKeyword (word : String)
  | removeOperator (symbol : String)
deriving DecidableEq, Repr

namespace Blueprint

def append (b : Blueprint) : Part → Blueprint
  | .grammarRule rule => { b with grammarRules := b.grammarRules ++ [rule] }
  | .syntaxRule rule => { b with syntaxRules := b.syntaxRules ++ [rule] }
  | .semanticAction action => { b with semanticActions := b.semanticActions ++ [action] }
  | .keyword keyword => { b with keywords := b.keywords ++ [keyword] }
  | .operator operator => { b with operators := b.operators ++ [operator] }
  | .builtin builtin => { b with builtins := b.builtins ++ [builtin] }

/-- Removes the part at a place; a place past the end addresses nothing. -/
def removeAt (b : Blueprint) (index : Nat) : Collection → Blueprint
  | .grammarRules => { b with grammarRules := b.grammarRules.eraseIdx index }
  | .syntaxRules => { b with syntaxRules := b.syntaxRules.eraseIdx index }
  | .semanticActions => { b with semanticActions := b.semanticActions.eraseIdx index }
  | .keywords => { b with keywords := b.keywords.eraseIdx index }
  | .operators => { b with operators := b.operators.eraseIdx index }
  | .builtins => { b with builtins := b.builtins.eraseIdx index }

/-- Gives the first rule with the handle the content of another rule; it keeps its handle and its
place. -/
def replaceFirst (nodeId : NodeId) (rule : GrammarRule) : List GrammarRule → List GrammarRule
  | [] => []
  | old :: rules =>
      if old.nodeId = nodeId then { rule with nodeId := nodeId } :: rules
      else old :: replaceFirst nodeId rule rules

def apply (b : Blueprint) : Edit → Blueprint
  | .setName name => { b with name := name }
  | .setVersion version => { b with version := version }
  | .setDescription description => { b with description := description }
  | .setExecution execution => { b with execution := execution }
  | .setBackend backend => { b with backend := backend }
  | .setFileExtension extension => { b with fileExtension := extension }
  | .setAuthor author => { b with author := author }
  | .setComments markers => { b with comments := markers }
  | .setLineComment marker => { b with comments := { b.comments with line := marker } }
  | .setBlockCommentStart marker =>
      { b with comments := { b.comments with blockStart := marker } }
  | .setBlockCommentEnd marker =>
      { b with comments := { b.comments with blockEnd := marker } }
  | .setTypes types => { b with types := types }
  | .addType type => { b with types := b.types.insert type }
  | .removeType type => { b with types := b.types.erase type }
  | .append part => b.append part
  | .removeAt collection index => b.removeAt index collection
  | .removeGrammarRule nodeId =>
      { b with grammarRules := b.grammarRules.filter (fun rule => rule.nodeId != nodeId) }
  | .replaceGrammarRule nodeId rule =>
      { b with grammarRules := replaceFirst nodeId rule b.grammarRules }
  | .removeKeyword word =>
      { b with keywords := b.keywords.filter (fun keyword => keyword.word != word) }
  | .removeOperator symbol =>
      { b with operators := b.operators.filter (fun operator => operator.symbol != symbol) }

def applyAll (b : Blueprint) (edits : List Edit) : Blueprint := edits.foldl apply b

end Blueprint

end LanguageBlueprint
