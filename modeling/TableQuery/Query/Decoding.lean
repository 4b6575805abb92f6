import TableQuery.Json.Record
import TableQuery.Query.Basic

namespace TableQuery

open Json

def variants {α : Type} (name : α → String) (all : List α) : List (String × α) :=
  all.map fun x => (name x, x)

def Direction.decoder : Decoder Direction := .choice (variants Direction.name Direction.all)

def Calendar.Bucket.decoder : Decoder Bucket := .choice (variants Calendar.Bucket.name Calendar.Bucket.all)

def AggregateFunction.decoder : Decoder AggregateFunction :=
  .choice (variants AggregateFunction.name AggregateFunction.all)

def WindowFunction.decoder : Decoder WindowFunction := .choice (variants WindowFunction.name WindowFunction.all)

def FilterOp.decoder : Decoder FilterOp := .choice (variants FilterOp.name FilterOp.all)

def JoinKind.decoder : Decoder JoinKind := .choice (variants JoinKind.name JoinKind.all)

def OrderTerm.decoder : Decoder OrderTerm :=
  Record.decoder "OrderBy" <|
    OrderTerm.mk <$> .required "field" .string <*> .defaulted "direction" .asc Direction.decoder

def AggregateField.decoder : Decoder AggregateField :=
  Record.decoder "AggregateField" <|
    AggregateField.mk <$> .required "field" .string
      <*> .required "aggregate" AggregateFunction.decoder
      <*> .required "as" .string
      <*> .optional "percentile" .binary64

def WindowField.decoder : Decoder WindowField :=
  Record.decoder "WindowField" <|
    WindowField.mk <$> .required "window" WindowFunction.decoder
      <*> .optional "field" .string
      <*> .required "as" .string
      <*> .defaulted "partitionBy" [] (.list .string)
      <*> .defaulted "orderBy" [] (.list OrderTerm.decoder)
      <*> .optional "offset" (.natural64 "usize")
      <*> .optional "default" .json

/-- A string, a window or an aggregate, whichever fits first. -/
def SelectField.decoder : Decoder SelectField :=
  .firstFitting "SelectField"
    [.map .column .string, .map .window WindowField.decoder,
      .map .aggregate AggregateField.decoder]

def GroupField.bucketedDecoder : Decoder GroupField :=
  Record.decoder "BucketedField" <|
    GroupField.bucketed <$> .required "field" .string
      <*> .required "bucket" Calendar.Bucket.decoder

def GroupField.decoder : Decoder GroupField :=
  .firstFitting "GroupByField" [.map .plain .string, GroupField.bucketedDecoder]

def Filter.decoder : Decoder Filter :=
  Record.decoder "Filter" <|
    Filter.mk <$> .required "field" .string
      <*> .required "op" FilterOp.decoder
      <*> .optional "value" .json

def Join.keysDecoder : Decoder (String × String) :=
  Record.decoder "JoinOn" <|
    Prod.mk <$> .required "left" .string <*> .required "right" .string

def Join.decoder : Decoder Join :=
  Record.decoder "Join" <|
    (fun name keys kind => Join.mk name keys.1 keys.2 kind) <$> .required "table" .string
      <*> .required "on" Join.keysDecoder
      <*> .defaulted "type" .left JoinKind.decoder

def Query.decoder : Decoder Query :=
  Record.decoder "DslQuery" <|
    Query.mk <$> .defaulted "join" [] (.list Join.decoder)
      <*> .required "select" (.list SelectField.decoder)
      <*> .defaulted "groupBy" [] (.list GroupField.decoder)
      <*> .defaulted "filter" [] (.list Filter.decoder)
      <*> .defaulted "having" [] (.list Filter.decoder)
      <*> .defaulted "orderBy" [] (.list OrderTerm.decoder)
      <*> .optional "limit" (.natural64 "u64")

end TableQuery
