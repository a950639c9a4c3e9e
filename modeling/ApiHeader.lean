import ApiHeader.Command.FileSystem
import ApiHeader.Command.Invocation
import ApiHeader.Command.Run
import ApiHeader.Description.Content
import ApiHeader.Description.Element
import ApiHeader.Description.Error
import ApiHeader.Description.Fields
import ApiHeader.Description.Load
import ApiHeader.Description.Section
import ApiHeader.Header.Declaration
import ApiHeader.Header.Declarator
import ApiHeader.Header.Functions
import ApiHeader.Header.Generate
import ApiHeader.Header.Layout
import ApiHeader.Header.Line
import ApiHeader.Header.Log
import ApiHeader.Header.Preamble
import ApiHeader.Header.Signature
import ApiHeader.Header.Types
import ApiHeader.Main
import ApiHeader.Markup.Attribute
import ApiHeader.Markup.Cut
import ApiHeader.Markup.Doctype
import ApiHeader.Markup.Event
import ApiHeader.Markup.Fault
import ApiHeader.Markup.Lexeme
import ApiHeader.Markup.Reference
import ApiHeader.Naming
import ApiHeader.Schema.Basic
import ApiHeader.Schema.Depth
import ApiHeader.Schema.Edit
import ApiHeader.Schema.Error
import ApiHeader.Schema.Function
import ApiHeader.Schema.NameTable
import ApiHeader.Schema.Resolved
import ApiHeader.Schema.TypeDef
import ApiHeader.Schema.TypeRef
import ApiHeader.Schema.Validation
import ApiHeader.Text.Blank
import ApiHeader.Text.CaseIgnorable
import ApiHeader.Text.CaseMap
import ApiHeader.Text.Letter
import ApiHeader.Text.Lines
import ApiHeader.Text.Numeral
import ApiHeader.Text.Quoted
import ApiHeader.Text.Run
import ApiHeader.Text.WordCase
import ApiHeader.Proofs.Attention
import ApiHeader.Proofs.AttributeFaults
import ApiHeader.Proofs.Banner
import ApiHeader.Proofs.Conditions
import ApiHeader.Proofs.Consumption
import ApiHeader.Proofs.DeclarationOrder
import ApiHeader.Proofs.Declared
import ApiHeader.Proofs.Delivery
import ApiHeader.Proofs.DepthSearch
import ApiHeader.Proofs.Editing
import ApiHeader.Proofs.ElementEnds
import ApiHeader.Proofs.Embedding
import ApiHeader.Proofs.Emission
import ApiHeader.Proofs.EntryLiterals
import ApiHeader.Proofs.Exchange
import ApiHeader.Proofs.Exports
import ApiHeader.Proofs.Extent
import ApiHeader.Proofs.FieldNames
import ApiHeader.Proofs.Identifiers
import ApiHeader.Proofs.InertText
import ApiHeader.Proofs.Insertion
import ApiHeader.Proofs.Introduction
import ApiHeader.Proofs.Lexing
import ApiHeader.Proofs.Mentions
import ApiHeader.Proofs.NameKinds
import ApiHeader.Proofs.Nesting
import ApiHeader.Proofs.Numerals
import ApiHeader.Proofs.Outline
import ApiHeader.Proofs.Precedence
import ApiHeader.Proofs.Reading
import ApiHeader.Proofs.Rearrangement
import ApiHeader.Proofs.Refusal
import ApiHeader.Proofs.Relevance
import ApiHeader.Proofs.Respelling
import ApiHeader.Proofs.RoundTrip
import ApiHeader.Proofs.SearchRuns
import ApiHeader.Proofs.SignatureModes
import ApiHeader.Proofs.Sorting
import ApiHeader.Proofs.StructBodies
import ApiHeader.Proofs.TextContent
import ApiHeader.Proofs.TextElements
import ApiHeader.Proofs.TextLines
import ApiHeader.Proofs.Tiers
import ApiHeader.Proofs.Truncation
import ApiHeader.Proofs.TypeIndex
import ApiHeader.Proofs.TypeNames
import ApiHeader.Proofs.Validation
import ApiHeader.Proofs.Writing
