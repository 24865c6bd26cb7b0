import Cqlite.Construction.PyString
import Cqlite.Construction.PyException
import Cqlite.Construction.VInt
import Cqlite.Proof.VInt.Decode
import Cqlite.Proof.VInt.RoundTrip
import Cqlite.Construction.Validator
import Cqlite.Proof.Validator.Scan
import Cqlite.Proof.Validator.Summary
import Cqlite.Construction.Structure
import Cqlite.Proof.Validator.Structure
import Cqlite.Construction.AsyncSupport
import Cqlite.Proof.Async.Chunks
import Cqlite.Construction.CqlTypes
import Cqlite.Proof.PyString.Methods
import Cqlite.Proof.Types.Split
import Cqlite.Proof.Types.Grammar
import Cqlite.Proof.Types.Extract
import Cqlite.Proof.Types.Hints
import Cqlite.Construction.Utils
import Cqlite.Proof.Utils.Schema
import Cqlite.Construction.Paths
import Cqlite.Proof.Utils.Paths
import Cqlite.Construction.Format
import Cqlite.Proof.Utils.Table
import Cqlite.Construction.PyValue
import Cqlite.Construction.Convert
import Cqlite.Proof.PyValue.Collections
import Cqlite.Proof.Convert.Equations
import Cqlite.Proof.Convert.Refinement
import Cqlite.Proof.Convert.Typing
import Cqlite.Proof.Convert.Idempotence
import Cqlite.Proof.Types.Info
import Cqlite.Construction.Memory
import Cqlite.Proof.Utils.Memory
import Cqlite.Construction.Query
import Cqlite.Proof.Query.Columns
import Cqlite.Construction.Reader
import Cqlite.Proof.Reader.Cache
import Cqlite.Construction.AsyncReader
import Cqlite.Proof.Async.Reader
