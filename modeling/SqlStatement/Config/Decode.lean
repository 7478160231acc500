import SqlStatement.Config.Shape
import SqlStatement.Config.Statement

/-!
# Configurations from documents

The shapes of a configuration, of its statements and of their sort keys.
-/

namespace SqlStatement

open Toml (Value)

namespace SortKey

def shape : Shape SortKey where
  title := "OrderByConfig"
  blank := { column := "" }
  fields := [
    { name := "column", required := true, requiredPlace := true
      read := fun key value => do return { key with column := ← value.readText } },
    { name := "direction", required := false, requiredPlace := false
      read := fun key value => do
        return { key with
          direction := ← value.readChoice Direction.ofName? (Direction.all.map Direction.name) } }]

end SortKey

namespace NamedStatement

def shape : Shape NamedStatement where
  title := "StatementConfig"
  blank := { name := "", kind := .select, table := "" }
  fields := [
    { name := "name", required := true, requiredPlace := true
      read := fun statement value => do
        return { statement with name := ← value.readText } },
    { name := "kind", required := true, requiredPlace := true
      read := fun statement value => do
        return { statement with
          kind := ← value.readChoice StatementKind.ofName?
            (StatementKind.all.map StatementKind.name) } },
    { name := "table", required := true, requiredPlace := true
      read := fun statement value => do
        return { statement with table := ← value.readText } },
    { name := "columns", required := false, requiredPlace := true
      read := fun statement value => do
        return { statement with columns := some (← value.readList Value.readText) } },
    { name := "set", required := false, requiredPlace := false
      read := fun statement value => do
        return { statement with assignments := ← value.readList Value.readText } },
    { name := "where", required := false, requiredPlace := false
      read := fun statement value => do
        return { statement with filters := ← value.readList Value.readText } },
    { name := "order_by", required := false, requiredPlace := false
      read := fun statement value => do
        return { statement with sortKeys := ← value.readList SortKey.shape.read } },
    { name := "limit", required := false, requiredPlace := false
      read := fun statement value => do
        return { statement with limits := ← value.readList Value.readInt64 } }]

end NamedStatement

namespace Config

def shape : Shape Config where
  title := "ConfigFile"
  blank := { version := "" }
  fields := [
    { name := "version", required := true, requiredPlace := true
      read := fun config value => do
        return { config with version := ← value.readText } },
    { name := "statements", required := false, requiredPlace := false
      read := fun config value => do
        return { config with statements := ← value.readList NamedStatement.shape.read } }]

end Config

end SqlStatement
