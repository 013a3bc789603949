import PrismaEsdl.Proofs.Configuration.Escape
import PrismaEsdl.Proofs.Conversion.Default
import PrismaEsdl.Proofs.Conversion.Erasure
import PrismaEsdl.Proofs.Conversion.Expression
import PrismaEsdl.Proofs.Conversion.Fault
import PrismaEsdl.Proofs.Conversion.Indexing
import PrismaEsdl.Proofs.Conversion.Locality
import PrismaEsdl.Proofs.Conversion.Partition
import PrismaEsdl.Proofs.Conversion.Rearrangement
import PrismaEsdl.Proofs.Conversion.Relation
import PrismaEsdl.Proofs.Conversion.Resolution
import PrismaEsdl.Proofs.Conversion.Storage
import PrismaEsdl.Proofs.Conversion.Uniqueness
import PrismaEsdl.Proofs.Conversion.Warnings
import PrismaEsdl.Proofs.Esdl.Layout
import PrismaEsdl.Proofs.Log.Console
import PrismaEsdl.Proofs.Prisma.Cause
import PrismaEsdl.Proofs.Prisma.Grammar
import PrismaEsdl.Proofs.Prisma.Loading
import PrismaEsdl.Proofs.Prisma.Reading
import PrismaEsdl.Proofs.Prisma.Value
import PrismaEsdl.Proofs.Prisma.Writing
import PrismaEsdl.Proofs.Report
import PrismaEsdl.Proofs.Session
