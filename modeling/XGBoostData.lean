import XGBoostData.Data.Entry
import XGBoostData.Data.SparsePage
import XGBoostData.Common.GroupBuilder
import XGBoostData.Data.Adapter
import XGBoostData.Common.Threading
import XGBoostData.Data.PushBatch
import XGBoostData.Data.PageOps
import XGBoostData.Data.PushCSC
import XGBoostData.Data.PageRun
import XGBoostData.Data.Transpose
import XGBoostData.Data.TransposeRoundTrip
import XGBoostData.Data.TransposeMerge
import XGBoostData.Data.BuilderPasses
import XGBoostData.Data.MetaInfo
import XGBoostData.Data.MetaInfoBinary
import XGBoostData.Data.MetaInfoRun
import XGBoostData.Data.MetaInfoShape
import XGBoostData.Data.MetaInfoSlice
import XGBoostData.Data.MetaInfoUpdate
import XGBoostData.Data.MetaInfoGroups
import XGBoostData.Data.MetaInfoQuery
import XGBoostData.Data.MetaInfoCollective
import XGBoostData.Common.CudaDrUtils
import XGBoostData.Data.ProxyDMatrix
import XGBoostData.Data.DMatrixThreadLocal
